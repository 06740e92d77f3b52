import ApiScaffold.Proofs.Console.Message
import ApiScaffold.Proofs.FileTree.Path
import ApiScaffold.Proofs.Numeric.Duration
import ApiScaffold.Proofs.Run.Places
import ApiScaffold.Run.Generate

/-!
What a run tells can be told: where no name of the configuration looks like markup, only the packages
themselves, the clock and the places of files can bring a run to an end.
-/

namespace ApiScaffold

open Console (Bare Message Showable Told)

structure Config.Without (c : Char) (config : Config) : Prop where
  domains : ∀ token ∈ config.domains, c ∉ token.toList
  adapters : ∀ id ∈ config.adapters, c ∉ id.toList
  outputDir : ∀ name ∈ config.outputDir.segments, c ∉ name.toList

namespace Run

variable {config : Config} {selection : Selection} {sets : List ArtifactSet} {cwd : Location}

lemma result_say {messages : List Message} (h : ∀ message ∈ messages, message.Clean) (columns : Nat) :
    (say columns messages).result = .ok () := by
  rw [say, Told.mapFault, Told.say_of_clean h]
  rfl

lemma bare_intercalate {items : List String} (h : ∀ item ∈ items, Bare item) :
    Bare (", ".intercalate items) := by
  induction items with
  | nil => decide
  | cons item rest ih =>
    obtain ⟨hitem, hrest⟩ := List.forall_mem_cons.mp h
    cases rest with
    | nil => simpa [Bare] using hitem
    | cons next rest =>
      have hseparator : Bare ", " := by decide
      simp only [Bare, String.intercalate_cons_cons, String.toList_append, List.mem_append, not_or]
      exact ⟨⟨hitem, hseparator⟩, ih hrest⟩

lemma bare_listing {items : List String} (h : ∀ item ∈ items, Bare item) : Bare (listing items) := by
  rw [listing]
  split
  · decide
  · exact bare_intercalate h

lemma notMem_package {c : Char} (hc : c ∉ "core contracts adapter-".toList) (hconfig : config.Without c) :
    ∀ name ∈ selection.targets.flatMap (packages config), c ∉ name.toList := by
  simp only [String.reduceToList, List.mem_cons, not_or] at hc
  intro name hname
  obtain rfl | rfl | ⟨id, hid, rfl⟩ := mem_packages hname
  · simp [PackageName.core, hc]
  · simp [PackageName.contracts, hc]
  · simpa [PackageName.adapter, hc] using hconfig.adapters id hid

lemma clean_intention (hconfig : config.Without '[') {location : Location}
    (hlocation : ∀ name ∈ location, Bare name) :
    ∀ message ∈ intention config selection location, message.Clean := by
  have hplace : Bare ("  Output  : " ++ location.text) := by
    simpa [Bare, Location.text] using Path.notMem_intercalate (by decide) |>.mpr hlocation
  have htargets : Bare ("  Targets : " ++ ", ".intercalate (selection.targets.map Target.name)) := by
    have hnames : ∀ name ∈ selection.targets.map Target.name, Bare name := by
      intro name hname
      obtain ⟨target, -, rfl⟩ := List.mem_map.mp hname
      cases target <;> decide
    simpa [Bare] using bare_intercalate hnames
  intro message hmessage
  rw [intention, List.mem_append] at hmessage
  rcases hmessage with hfixed | hwarning
  · simp only [List.mem_cons, List.not_mem_nil, or_false] at hfixed
    rcases hfixed with rfl | rfl | rfl
    · exact Console.showable_of_bare hplace
    · exact Console.showable_of_bare htargets
    · trivial
  · split at hwarning
    · obtain ⟨id, hid, rfl⟩ := List.mem_map.mp hwarning
      have hbare := hconfig.adapters id (List.mem_of_mem_filter hid)
      simpa [unknownWarning, Message.Clean, Bare, PackageName.adapter] using hbare
    · cases hwarning

lemma clean_packageMessage {s : ArtifactSet} (h : Bare s.package) : (packageMessage s).Clean := by
  simpa [packageMessage, Message.Clean, Bare] using ⟨h, notMem_toDigits (by decide) s.size⟩

lemma clean_summary (hconfig : config.Without '[') {r : Report} (hpackages : ∀ name ∈ r.packages, Bare name)
    {duration : String} (hduration : Bare duration) :
    ∀ message ∈ summary config r duration, message.Clean := by
  have hbare {text : String} (h : Bare text) : Showable text := Console.showable_of_bare h
  have hformat : Bare config.format.name := by
    cases config.format <;> decide
  have hcount : Bare (toString r.written.length) := by
    simpa [Bare] using notMem_toDigits (c := '[') (by decide) r.written.length
  have htitle : Showable (Message.styled "bold" "Next steps:") :=
    Console.showable_styled (by decide +kernel) (by decide)
  have hstyled : Message.styled "bold" "Next steps:" = "[bold]Next steps:[/bold]" := rfl
  rw [hstyled] at htitle
  simp only [summary, List.forall_mem_cons, Message.Clean]
  refine ⟨⟨hbare (by decide), ⟨hbare (by decide), hbare (bare_listing hconfig.domains)⟩,
    ⟨hbare (by decide), hbare (bare_listing hconfig.adapters)⟩, ⟨hbare (by decide), hbare hformat⟩,
    ⟨hbare (by decide), hbare (bare_listing hpackages)⟩, ⟨hbare (by decide), hbare hcount⟩,
    ⟨hbare (by decide), hbare hduration⟩, List.forall_mem_nil _⟩, htitle, hbare (by decide),
      hbare (by decide), hbare (by decide), List.forall_mem_nil _⟩

lemma prepare_result (hmarkup : config.Without '[') (hnull : config.Without '\x00')
    (hcwd : ∀ name ∈ cwd, '[' ∉ name.toList) (columns : Nat) :
    (prepare columns cwd config selection).result = (build config selection).mapError .build := by
  have hplace : locate cwd config.outputDir = .ok (config.outputDir.resolve cwd) := by
    have htext := (Path.notMem_text (by decide) (by decide)).mpr hnull.outputDir
    rw [locate, if_neg]
    simpa using htext
  have hresolved : ∀ name ∈ config.outputDir.resolve cwd, Bare name := fun name hname =>
    (Path.mem_resolve hname).elim (hcwd name) (hmarkup.outputDir name)
  have hopening : (say columns opening).result = .ok () :=
    result_say (by simpa [opening, Message.Clean] using (by decide : Bare "CoreBridge Generation")) columns
  have hintention : (say columns (intention config selection (config.outputDir.resolve cwd))).result =
      .ok () :=
    result_say (clean_intention hmarkup hresolved) columns
  rw [prepare, hplace]
  simp only [Told.result_bind, hopening, hintention, Chain.ok_bind, Told.bind_ofResult_ok]
  rfl

end Run

end ApiScaffold
