import ApiScaffold.Proofs.FileTree.Between
import ApiScaffold.Proofs.Package.Writing

/-!
Where no two files with different contents have the same place, the order of writing does not matter: if
the packages can be written one after the other, no order is at fault, and all orders lead to one tree.
-/

namespace ApiScaffold

open FileTree (Change Between)
open Relation (ReflTransGen)

namespace ArtifactSet

def Consistent (cwd : Location) (outputDir : Path) (sets : List ArtifactSet) : Prop :=
  ∀ s ∈ sets, ∀ a ∈ s.artifacts, ∀ t ∈ sets, ∀ b ∈ t.artifacts,
    (s.target outputDir a).resolve cwd = (t.target outputDir b).resolve cwd → a.content = b.content

end ArtifactSet

namespace Writing

open ArtifactSet (Consistent)

variable {cwd : Location} {tree : FileTree} {outputDir : Path} {sets : List ArtifactSet} {w other : Writing}

lemma steps_applyAll (cwd : Location) (before after : List Writer) (set : ArtifactSet)
    (made left : List Change) (tree : FileTree) : ∃ made' left',
    ReflTransGen (Step cwd) ⟨tree, before ++ ⟨set, made, left, none⟩ :: after⟩
      ⟨(tree.applyAll cwd left).tree,
        before ++ ⟨set, made', left', (tree.applyAll cwd left).fault⟩ :: after⟩ ∧
      ((tree.applyAll cwd left).fault = none → left' = []) := by
  induction left generalizing tree made with
  | nil => exact ⟨made, [], .refl, fun _ => rfl⟩
  | cons change rest ih =>
    have hstep : Step cwd _ _ := .apply tree before after set made rest change
    cases hfault : (tree.apply cwd change).fault with
    | none =>
      have hall : tree.applyAll cwd (change :: rest) = (tree.apply cwd change).tree.applyAll cwd rest := by
        rw [FileTree.applyAll, FileTree.Outcome.andThen, hfault]
      rw [hfault] at hstep
      rw [hall]
      obtain ⟨made', left', hsteps, hleft⟩ := ih (made ++ [change]) (tree.apply cwd change).tree
      exact ⟨made', left', .head hstep hsteps, hleft⟩
    | some fault =>
      have hall : tree.applyAll cwd (change :: rest) = tree.apply cwd change := by
        rw [FileTree.applyAll, FileTree.Outcome.andThen, hfault]
      rw [hfault] at hstep
      rw [hall, hfault]
      exact ⟨made, change :: rest, .single hstep, fun hnone => absurd hnone (Option.some_ne_none fault)⟩

lemma steps_writeAll (cwd : Location) (outputDir : Path) (sets : List ArtifactSet) (tree : FileTree) : ∃ w,
    ReflTransGen (Step cwd) (start tree outputDir sets) w ∧ w.Finished ∧
      w.tree = (ArtifactSet.writeAll tree cwd outputDir sets).1 ∧
      w.writers.map Writer.fault = (ArtifactSet.writeAll tree cwd outputDir sets).2 := by
  have hsets (before : List Writer) : ∃ writers,
      ReflTransGen (Step cwd) ⟨tree, before ++ sets.map fun s => ⟨s, [], s.changes outputDir, none⟩⟩
        ⟨(ArtifactSet.writeAll tree cwd outputDir sets).1, before ++ writers⟩ ∧
      writers.map Writer.fault = (ArtifactSet.writeAll tree cwd outputDir sets).2 ∧
      ∀ writer ∈ writers, writer.left = [] ∨ writer.fault ≠ none := by
    induction sets generalizing tree before with
    | nil => exact ⟨[], .refl, rfl, List.forall_mem_nil _⟩
    | cons s rest ih =>
      obtain ⟨made, left, hsteps, hleft⟩ := steps_applyAll cwd before
        (rest.map fun s => ⟨s, [], s.changes outputDir, none⟩) s [] (s.changes outputDir) tree
      have hwriter : left = [] ∨ (tree.applyAll cwd (s.changes outputDir)).fault ≠ none :=
        Decidable.or_iff_not_imp_right.mpr fun hnone => hleft (not_not.mp hnone)
      obtain ⟨writers, hrest, hfaults, hdone⟩ := ih (tree.applyAll cwd (s.changes outputDir)).tree
        (before ++ [⟨s, made, left, (tree.applyAll cwd (s.changes outputDir)).fault⟩])
      refine ⟨⟨s, made, left, (tree.applyAll cwd (s.changes outputDir)).fault⟩ :: writers, ?_, ?_, ?_⟩
      · rw [← List.append_cons, ← List.append_cons] at hrest
        exact hsteps.trans hrest
      · rw [List.map_cons, hfaults]
        rfl
      · exact List.forall_mem_cons.mpr ⟨hwriter, hdone⟩
  obtain ⟨writers, hsteps, hfaults, hdone⟩ := hsets []
  exact ⟨_, hsteps, hdone, rfl, hfaults⟩

def pending (w : Writing) : Nat :=
  ((w.writers.filter fun writer => writer.fault.isNone).flatMap Writer.left).length

lemma pending_step (h : Step cwd w other) : other.pending < w.pending := by
  cases h with
  | apply now before after set made left change =>
    cases (now.apply cwd change).fault with
    | none => simp [pending, Writer.after]
    | some fault =>
      simp only [pending, Writer.after, List.filter_append, List.filter_cons, Option.isNone_none,
        Option.isNone_some, List.flatMap_append, List.flatMap_cons, List.length_append,
        List.length_cons, if_true, Bool.false_eq_true, if_false]
      omega

lemma exists_step (cwd : Location) (h : ¬ w.Finished) : ∃ next, Step cwd w next := by
  obtain ⟨tree, writers⟩ := w
  simp only [Finished, not_forall, not_or, not_not] at h
  obtain ⟨⟨set, made, left, fault⟩, hmem, hleft, hfault⟩ := h
  obtain ⟨change, left, rfl⟩ := List.exists_cons_of_ne_nil hleft
  obtain rfl : fault = none := hfault
  obtain ⟨before, after, rfl⟩ := List.append_of_mem hmem
  exact ⟨_, .apply tree before after set made left change⟩

lemma exists_finished (cwd : Location) (w : Writing) :
    ∃ last, ReflTransGen (Step cwd) w last ∧ last.Finished := by
  by_cases h : w.Finished
  · exact ⟨w, .refl, h⟩
  · obtain ⟨next, hstep⟩ := exists_step cwd h
    have := pending_step hstep
    obtain ⟨last, hsteps, hlast⟩ := exists_finished cwd next
    exact ⟨last, .head hstep hsteps, hlast⟩
termination_by w.pending

namespace Sound

variable {writer : Writer} {a : Artifact}

lemma set_mem (h : Sound cwd tree outputDir sets w) (hwriter : writer ∈ w.writers) : writer.set ∈ sets :=
  h.sets_eq ▸ List.mem_map_of_mem hwriter

lemma exists_writer (h : Sound cwd tree outputDir sets w) {s : ArtifactSet} (hs : s ∈ sets) :
    ∃ writer ∈ w.writers, writer.set = s := by
  rw [← h.sets_eq] at hs
  exact List.mem_map.mp hs

lemma made_eq (h : Sound cwd tree outputDir sets w) (hw : w.Finished) (hwriter : writer ∈ w.writers)
    (hfault : writer.fault = none) : writer.made = writer.set.changes outputDir := by
  have hleft : writer.left = [] := (hw writer hwriter).resolve_right fun hne => hne hfault
  simpa [hleft] using h.changes_eq writer hwriter

lemma exists_artifact {path : Path} {content : String} (h : Sound cwd tree outputDir sets w)
    (hmade : .file path content ∈ w.made) :
    ∃ s ∈ sets, ∃ a ∈ s.artifacts, path = s.target outputDir a ∧ content = a.content := by
  obtain ⟨writer, hwriter, hmade⟩ := List.mem_flatMap.mp hmade
  have hchange : Change.file path content ∈ writer.set.changes outputDir := by
    rw [← h.changes_eq writer hwriter]
    exact List.mem_append_left _ hmade
  obtain ⟨⟨⟩⟩ | ⟨a, ha, ⟨⟨⟩⟩ | hfile⟩ := ArtifactSet.mem_changes.mp hchange
  rw [Change.file.injEq] at hfile
  exact ⟨writer.set, h.set_mem hwriter, a, ha, hfile⟩

lemma exists_entryAt (h : Sound cwd tree outputDir sets w) (hw : w.Finished) (hwriter : writer ∈ w.writers)
    (hfault : writer.fault = none) (ha : a ∈ writer.set.artifacts) :
    ∃ t ∈ sets, ∃ b ∈ t.artifacts, (t.target outputDir b).resolve cwd =
      (writer.set.target outputDir a).resolve cwd ∧
      w.tree.entryAt cwd (writer.set.target outputDir a) = .ok (.file b.content.toUTF8) := by
  have hmade : Change.file (writer.set.target outputDir a) a.content ∈ writer.made := by
    rw [h.made_eq hw hwriter hfault]
    exact ArtifactSet.file_mem_changes ha
  obtain ⟨path, content, hother, hplace, hentry⟩ := h.kept writer hwriter _ hmade
  obtain ⟨t, ht, b, hb, rfl, rfl⟩ := h.exists_artifact hother
  exact ⟨t, ht, b, hb, hplace, hentry⟩

lemma held (h : Sound cwd tree outputDir sets w) (hw : w.Finished) (hwriter : writer ∈ w.writers)
    (hfault : writer.fault = none) : ∀ change ∈ writer.set.changes outputDir, change.Held w.tree cwd := by
  intro change hchange
  have hdirectory {path : Path} (hpath : .directory path ∈ writer.set.changes outputDir) :
      (Change.directory path).Held w.tree cwd := by
    rw [← h.made_eq hw hwriter hfault] at hpath
    exact ⟨_, h.kept writer hwriter (.directory path) hpath, rfl⟩
  obtain rfl | ⟨a, ha, rfl | rfl⟩ := ArtifactSet.mem_changes.mp hchange
  · exact hdirectory hchange
  · exact hdirectory hchange
  · obtain ⟨t, ht, b, hb, -, hentry⟩ := h.exists_entryAt hw hwriter hfault ha
    exact ⟨_, hentry, rfl⟩

lemma entryAt_of_consistent (h : Sound cwd tree outputDir sets w) (hw : w.Finished)
    (hconsistent : Consistent cwd outputDir sets) (hwriter : writer ∈ w.writers)
    (hfault : writer.fault = none) :
    ∀ change ∈ writer.set.changes outputDir, w.tree.entryAt cwd change.path = .ok change.entry := by
  intro change hchange
  have hdirectory {path : Path} (hpath : .directory path ∈ writer.set.changes outputDir) :
      w.tree.entryAt cwd path = .ok .directory := by
    rw [← h.made_eq hw hwriter hfault] at hpath
    exact h.kept writer hwriter (.directory path) hpath
  obtain rfl | ⟨a, ha, rfl | rfl⟩ := ArtifactSet.mem_changes.mp hchange
  · exact hdirectory hchange
  · exact hdirectory hchange
  · obtain ⟨t, ht, b, hb, hplace, hentry⟩ := h.exists_entryAt hw hwriter hfault ha
    rw [hconsistent t ht b hb writer.set (h.set_mem hwriter) a ha hplace] at hentry
    exact hentry

lemma read_of_consistent (h : Sound cwd tree outputDir sets w) (hw : w.Finished)
    (hconsistent : Consistent cwd outputDir sets) (hwriter : writer ∈ w.writers)
    (hfault : writer.fault = none) (ha : a ∈ writer.set.artifacts) :
    w.tree.read cwd (writer.set.target outputDir a) = .ok a.content.toUTF8 := by
  exact FileTree.read_eq_ok_iff.mpr (h.entryAt_of_consistent hw hconsistent hwriter hfault
    (.file (writer.set.target outputDir a) a.content) (ArtifactSet.file_mem_changes ha))

lemma read_iff_consistent (h : Sound cwd tree outputDir sets w) (hw : w.Finished)
    (hfault : ∀ writer ∈ w.writers, writer.fault = none) :
    (∀ s ∈ sets, ∀ a ∈ s.artifacts, w.tree.read cwd (s.target outputDir a) = .ok a.content.toUTF8) ↔
      Consistent cwd outputDir sets := by
  constructor
  · intro hread s hs a ha t ht b hb hplace
    have ha := (FileTree.entryAt_eq_ok.mp (FileTree.read_eq_ok_iff.mp (hread s hs a ha))).2
    have hb := (FileTree.entryAt_eq_ok.mp (FileTree.read_eq_ok_iff.mp (hread t ht b hb))).2
    rw [hplace, hb, Option.some.injEq, FileTree.Entry.file.injEq] at ha
    exact String.toByteArray_inj.mp ha.symm
  · intro hconsistent s hs a ha
    obtain ⟨writer, hwriter, rfl⟩ := h.exists_writer hs
    exact h.read_of_consistent hw hconsistent hwriter (hfault writer hwriter) ha

end Sound

lemma get?_of_covers {change : Change} {location : Location} {t : FileTree}
    (hcovers : change.Covers cwd location)
    (hentry : t.entryAt cwd change.path = .ok change.entry) : t.get? location = some change.entry := by
  obtain ⟨-, hget⟩ := FileTree.entryAt_eq_ok.mp hentry
  cases change with
  | file path content =>
    obtain rfl : location = path.resolve cwd := hcovers
    exact hget
  | directory path =>
    obtain ⟨names, hnames, rfl⟩ := hcovers
    by_cases heq : names = path.segments
    · rw [heq]
      exact hget
    · exact FileTree.get?_of_prefix hentry hnames heq

lemma get?_eq (h : Sound cwd tree outputDir sets w) (hw : w.Finished)
    (hfault : ∀ writer ∈ w.writers, writer.fault = none)
    (ho : Sound cwd tree outputDir sets other) (hother : other.Finished)
    (hnone : ∀ writer ∈ other.writers, writer.fault = none) (hconsistent : Consistent cwd outputDir sets)
    (location : Location) : w.tree.get? location = other.tree.get? location := by
  have hcovered : ∀ s ∈ sets, ∀ change ∈ s.changes outputDir, change.Covers cwd location →
      w.tree.get? location = other.tree.get? location := by
    intro s hs change hchange hcovers
    obtain ⟨writer, hwriter, rfl⟩ := h.exists_writer hs
    obtain ⟨writer', hwriter', hset⟩ := ho.exists_writer hs
    rw [get?_of_covers hcovers
      (h.entryAt_of_consistent hw hconsistent hwriter (hfault writer hwriter) change hchange),
      get?_of_covers hcovers
        (ho.entryAt_of_consistent hother hconsistent hwriter' (hnone writer' hwriter') change
        (hset ▸ hchange))]
  rcases h.covered location with heq | ⟨s, hs, change, hchange, hcovers⟩
  · rcases ho.covered location with heq' | ⟨s, hs, change, hchange, hcovers⟩
    · rw [heq, heq']
    · exact hcovered s hs change hchange hcovers
  · exact hcovered s hs change hchange hcovers

lemma between_of_steps {last : FileTree} (hgrows : FileTree.Grows tree last)
    (hlast : ∀ s ∈ sets, ∀ change ∈ s.changes outputDir, change.Held last cwd)
    (h : ReflTransGen (Step cwd) (start tree outputDir sets) w) :
    Between tree w.tree last ∧ ∀ writer ∈ w.writers, writer.fault = none := by
  induction h with
  | refl => exact ⟨⟨hgrows, fun _ => .inl rfl⟩, by simp [start]⟩
  | tail hsteps hstep ih =>
    obtain ⟨hbetween, hfault⟩ := ih
    have hsound := sound_of_steps hsteps
    cases hstep with
    | apply now before after set made left change =>
      have hwriter : (⟨set, made, change :: left, none⟩ : Writer) ∈ before ++
          ⟨set, made, change :: left, none⟩ :: after := by
        simp
      have hchanges : made ++ change :: left = set.changes outputDir := hsound.changes_eq _ hwriter
      have hparent : ∀ path content, change = .file path content →
          now.entryAt cwd path.parent = .ok .directory := by
        rintro path content rfl
        exact hsound.kept _ hwriter _ (ArtifactSet.parent_mem hchanges)
      obtain ⟨hnone, hbetween⟩ :=
        hbetween.apply (hlast set (hsound.set_mem hwriter) change (hchanges ▸ by simp)) hparent
      refine ⟨hbetween, ?_⟩
      simp only [List.forall_mem_append, List.forall_mem_cons] at hfault ⊢
      exact ⟨hfault.1, by simpa using hnone, hfault.2.2⟩

lemma fault_eq_none_of_writeAll (hwrites : ∀ fault ∈ (ArtifactSet.writeAll tree cwd outputDir sets).2,
    fault = none)
    (h : ReflTransGen (Step cwd) (start tree outputDir sets) w) :
    ∀ writer ∈ w.writers, writer.fault = none := by
  obtain ⟨last, hsteps, hlast, -, hfaults⟩ := steps_writeAll cwd outputDir sets tree
  have hsound := sound_of_steps hsteps
  have hheld : ∀ s ∈ sets, ∀ change ∈ s.changes outputDir, change.Held last.tree cwd := by
    intro s hs
    obtain ⟨writer, hwriter, rfl⟩ := hsound.exists_writer hs
    exact hsound.held hlast hwriter (hwrites _ (hfaults ▸ List.mem_map_of_mem hwriter))
  exact (between_of_steps hsound.grows hheld h).2

lemma get?_eq_writeAll (hconsistent : Consistent cwd outputDir sets)
    (hwrites : ∀ fault ∈ (ArtifactSet.writeAll tree cwd outputDir sets).2, fault = none)
    (h : ReflTransGen (Step cwd) (start tree outputDir sets) w) (hw : w.Finished) (location : Location) :
    w.tree.get? location = (ArtifactSet.writeAll tree cwd outputDir sets).1.get? location := by
  obtain ⟨last, hsteps, hlast, htree, hfaults⟩ := steps_writeAll cwd outputDir sets tree
  have hnone : ∀ writer ∈ last.writers, writer.fault = none := fun writer hwriter =>
    hwrites _ (hfaults ▸ List.mem_map_of_mem hwriter)
  rw [← htree]
  exact get?_eq (sound_of_steps h) hw (fault_eq_none_of_writeAll hwrites h)
    (sound_of_steps hsteps) hlast hnone
    hconsistent location

end Writing

end ApiScaffold
