import ApiScaffold.Proofs.Run.Course
import ApiScaffold.Proofs.Run.Packages

namespace ApiScaffold.Run

open Chain
open ArtifactSet (Consistent)
open Console (Bare Told)
open ApiScaffold.Path (IsName ofString)

variable {config : Config} {selection : Selection} {sets : List ArtifactSet} {tree : FileTree}
    {cwd : Location}
variable {columns : Nat} {writer : Writer} {elapsed : Binary64}

def reports {outputDir : Path} (columns : Nat) (course : Course tree cwd outputDir sets) : String :=
  String.join ((course.reported.filter fun writer => writer.fault.isNone).map fun writer =>
    (say columns [packageMessage writer.set]).text)

lemma text_settleCourse {outputDir : Path} (columns : Nat) (course : Course tree cwd outputDir sets) :
    (settleCourse columns course).text = reports columns course := by
  simp only [settleCourse, reports]
  induction course.reported with
  | nil => rw [List.filter_nil, List.map_nil, List.map_nil]
  | cons writer rest ih =>
    rw [List.map_cons, String.join_cons, ih, settleWriter]
    cases hfault : writer.fault with
    | none => simp [settle, hfault]
    | some fault => simp [settle, hfault, Told.ofResult]

lemma result_settleWriter (hbare : Bare writer.set.package) (hfault : writer.fault = none) (columns : Nat) :
    (settleWriter columns writer).result = .ok () := by
  rw [settleWriter, hfault]
  exact result_say (by simpa using clean_packageMessage hbare) columns

lemma result_settleWriter_of_fault {fault : FileTree.Fault} (hfault : writer.fault = some fault)
    (columns : Nat) :
    (settleWriter columns writer).result = .error (.ofWriting writer.set.package fault) := by
  rw [settleWriter, hfault]
  rfl

lemma notMem_changes (h : build config selection = .ok sets) (hnull : config.Without '\x00') {s : ArtifactSet}
    (hs : s ∈ sets) {change : FileTree.Change} (hchange : change ∈ s.changes config.outputDir) :
    ∀ name ∈ change.path.segments, '\x00' ∉ name.toList := by
  have hroot : ∀ name ∈ (s.root config.outputDir).segments, '\x00' ∉ name.toList := by
    rw [ArtifactSet.root, Path.segments_join _ (root_package h hs)]
    exact List.forall_mem_append.mpr
      ⟨hnull.outputDir, Path.notMem_segments (notMem_package (by decide) hnull _ (package_mem h hs))⟩
  have htarget : ∀ a ∈ s.artifacts, ∀ name ∈ (s.target config.outputDir a).segments,
      '\x00' ∉ name.toList := by
    intro a ha
    have hplace : Place config.domains a.path := (places_of_build h hs).2 _ (List.mem_map_of_mem ha)
    rw [ArtifactSet.target, Path.segments_join _ hplace.root]
    exact List.forall_mem_append.mpr ⟨hroot, Path.notMem_segments (hplace.notMem_null hnull.domains)⟩
  obtain rfl | ⟨a, ha, rfl | rfl⟩ := ArtifactSet.mem_changes.mp hchange
  · exact hroot
  · exact fun name hname => htarget a ha name (List.dropLast_subset _ hname)
  · exact htarget a ha

lemma isSystem_of_build (h : build config selection = .ok sets) (hnull : config.Without '\x00')
    (course : Course tree cwd config.outputDir sets) (hwriter : writer ∈ course.last.writers)
    {fault : FileTree.Fault} (hfault : writer.fault = some fault) : fault.IsSystem := by
  have hsound := course.sound
  obtain ⟨now, change, hchange, happly⟩ := hsound.stopped writer hwriter fault hfault
  exact FileTree.apply_isSystem (notMem_changes h hnull (hsound.set_mem hwriter) hchange) happly

lemma ofWriting_of_isSystem {fault : FileTree.Fault} (h : fault.IsSystem) (package : String) :
    Fault.ofWriting package fault = .write package fault := by
  obtain ⟨errno, path, rfl⟩ := h
  rfl

def reportOf (config : Config) (sets : List ArtifactSet) (elapsed : Binary64) : Report :=
  ⟨sets.map ArtifactSet.package, sets.flatMap (·.targets config.outputDir), elapsed⟩

lemma result_sumUp (hmarkup : config.Without '[') (hpackages : ∀ s ∈ sets, Bare s.package) {q : Rat}
    (hq : 0 ≤ q) (htime : elapsed.toRat? = some q) (columns : Nat) :
    (sumUp columns config sets elapsed).result = .ok (reportOf config sets elapsed) := by
  obtain ⟨duration, hduration, hbare⟩ := Duration.exists_text hq htime
  have hreport : report config.outputDir sets elapsed = .ok (reportOf config sets elapsed) :=
    if_neg (by rw [Duration.isNegative_of_toRat? htime hq]; exact Bool.false_ne_true)
  have hblank : (say columns [.blank]).result = .ok () := result_say (by simp [Console.Message.Clean]) columns
  have hsummary := result_say (clean_summary hmarkup (r := reportOf config sets elapsed)
    (List.forall_mem_map.mpr hpackages) hbare) columns
  simp only [sumUp, hreport, hduration, mapError_ok, Told.bind_ofResult_ok, Told.result_bind, hblank,
    hsummary, ok_bind]
  rfl

section Along

variable (course : ∀ sets, Course tree cwd config.outputDir sets)

lemma runAlong_of_error {fault : Fault} (h : (prepare columns cwd config selection).result = .error fault) :
    runAlong columns config selection elapsed course =
      (tree, ⟨(prepare columns cwd config selection).text, .error fault⟩) := by
  simp only [runAlong, h]

lemma runAlong_of_ok (h : (prepare columns cwd config selection).result = .ok sets) :
    runAlong columns config selection elapsed course = ((course sets).last.tree,
      ⟨(prepare columns cwd config selection).text ++ (settleCourse columns (course sets) >>= fun _ =>
        sumUp columns config sets elapsed).text,
        (settleCourse columns (course sets)).result >>= fun _ =>
        (sumUp columns config sets elapsed).result⟩) := by
  simp only [runAlong, h, Told.result_bind]

lemma result_runAlong (h : (prepare columns cwd config selection).result = .ok sets)
    (hbare : ∀ s ∈ sets, Bare s.package)
    (hfault : ∀ writer ∈ (course sets).last.writers, writer.fault = none) :
    (runAlong columns config selection elapsed course).2.result =
      (sumUp columns config sets elapsed).result := by
  have hsettled : (settleCourse columns (course sets)).result = .ok () :=
    forM_eq_ok.mpr fun writer hwriter =>
      result_settleWriter (hbare _ ((course sets).sound.set_mem hwriter)) (hfault writer hwriter) columns
  rw [runAlong_of_ok course h, hsettled, ok_bind]

lemma runAlong_of_fault (h : (prepare columns cwd config selection).result = .ok sets)
    (hbare : ∀ s ∈ sets, Bare s.package) {before after : List Writer} {fault : FileTree.Fault}
    (hwriters : (course sets).last.writers = before ++ writer :: after)
    (hbefore : ∀ w ∈ before, w.fault = none) (hfault : writer.fault = some fault) :
    (runAlong columns config selection elapsed course).2 =
      ⟨(prepare columns cwd config selection).text ++ reports columns (course sets),
        .error (.ofWriting writer.set.package fault)⟩ := by
  have hsettled : (settleCourse columns (course sets)).result =
      .error (.ofWriting writer.set.package fault) := by
    rw [settleCourse, hwriters]
    refine forM_eq_error (fun w hw => ?_) (result_settleWriter_of_fault hfault columns)
    have hmem : w ∈ (course sets).last.writers := hwriters ▸ List.mem_append_left _ hw
    exact result_settleWriter (hbare _ ((course sets).sound.set_mem hmem)) (hbefore w hw) columns
  have htold : (settleCourse columns (course sets) >>= fun _ => sumUp columns config sets elapsed).text =
      reports columns (course sets) := by
    rw [← text_settleCourse]
    show (Told.andThen _ _).text = _
    rw [Told.andThen, hsettled]
  rw [runAlong_of_ok course h, hsettled, htold]
  rfl

end Along

lemma exists_first_fault {writers : List Writer} (h : ∃ writer ∈ writers, writer.fault ≠ none) :
    ∃ before first after fault, writers = before ++ first :: after ∧
    (∀ writer ∈ before, writer.fault = none) ∧
      first.fault = some fault := by
  obtain ⟨writer, hwriter, hne⟩ := h
  have hfind : (writers.find? fun writer => writer.fault.isSome).isSome :=
    List.find?_isSome.mpr ⟨writer, hwriter, Option.isSome_iff_ne_none.mpr hne⟩
  obtain ⟨first, hfirst⟩ := Option.isSome_iff_exists.mp hfind
  obtain ⟨hsome, before, after, hwriters, hbefore⟩ := List.find?_eq_some_iff_append.mp hfirst
  obtain ⟨fault, hfault⟩ := Option.isSome_iff_exists.mp hsome
  exact ⟨before, first, after, fault, hwriters, fun writer hw => by simpa using hbefore writer hw, hfault⟩

lemma bare_of_build (hmarkup : config.Without '[') (h : build config selection = .ok sets) :
    ∀ s ∈ sets, Bare s.package :=
  fun _ hs => notMem_package (by decide) hmarkup _ (package_mem h hs)

lemma prepare_eq_ok (hmarkup : config.Without '[') (hnull : config.Without '\x00')
    (hcwd : ∀ name ∈ cwd, '[' ∉ name.toList)
    (h : build config selection = .ok sets) : (prepare columns cwd config selection).result = .ok sets := by
  rw [prepare_result hmarkup hnull hcwd, h]
  rfl

section Plain

variable (hmarkup : config.Without '[') (hnull : config.Without '\x00')
    (hcwd : ∀ name ∈ cwd, '[' ∉ name.toList)
variable (h : build config selection = .ok sets) (course : ∀ sets, Course tree cwd config.outputDir sets)

include hmarkup hnull hcwd h

lemma isSystem_of_first {before after : List Writer} {fault : FileTree.Fault}
    (hwriters : (course sets).last.writers = before ++ writer :: after)
    (hbefore : ∀ w ∈ before, w.fault = none) (hfault : writer.fault = some fault) :
    fault.IsSystem ∧ (runAlong columns config selection elapsed course).2 =
      ⟨(prepare columns cwd config selection).text ++ reports columns (course sets),
        .error (.write writer.set.package fault)⟩ := by
  have hwriter : writer ∈ (course sets).last.writers := by simp [hwriters]
  have hsystem : fault.IsSystem := isSystem_of_build h hnull (course sets) hwriter hfault
  refine ⟨hsystem, ?_⟩
  rw [← ofWriting_of_isSystem hsystem]
  exact runAlong_of_fault course (prepare_eq_ok hmarkup hnull hcwd h)
    (bare_of_build hmarkup h) hwriters hbefore hfault

lemma result_of_faultless (hfault : ∀ writer ∈ (course sets).last.writers, writer.fault = none) {q : Rat}
    (hq : 0 ≤ q) (htime : elapsed.toRat? = some q) :
    (runAlong columns config selection elapsed course).2.result = .ok (reportOf config sets elapsed) := by
  have hbare := bare_of_build hmarkup h
  rw [result_runAlong course (prepare_eq_ok hmarkup hnull hcwd h) hbare hfault]
  exact result_sumUp hmarkup hbare hq htime columns

lemma exists_write_error_iff {q : Rat} (hq : 0 ≤ q) (htime : elapsed.toRat? = some q) :
    (∃ package fault, (runAlong columns config selection elapsed course).2.result =
      .error (.write package fault)) ↔
      ∃ writer ∈ (course sets).last.writers, writer.fault ≠ none := by
  constructor
  · rintro ⟨package, fault, hresult⟩
    by_contra hall
    push Not at hall
    cases hresult.symm.trans (result_of_faultless hmarkup hnull hcwd h course hall hq htime)
  · intro hsome
    obtain ⟨before, first, after, fault, hwriters, hbefore, hfault⟩ := exists_first_fault hsome
    exact ⟨_, fault,
      congrArg Told.result (isSystem_of_first hmarkup hnull hcwd h course hwriters hbefore hfault).2⟩

end Plain

lemma userWeb_without : userWeb.Without '[' ∧ userWeb.Without '\x00' :=
  ⟨⟨by decide, by decide, by decide⟩, ⟨by decide, by decide, by decide⟩⟩

def blocked : FileTree := ⟨[(["packages"], .file ByteArray.empty)]⟩

lemma fault_ne_none_of_blocked (h : build userWeb selection = .ok sets)
    (course : Course blocked [] userWeb.outputDir sets)
    (hwriter : writer ∈ course.last.writers) : writer.fault ≠ none := by
  intro hfault
  have hsound := course.sound
  have hset := hsound.set_mem hwriter
  obtain ⟨content, hfile⟩ :=
    hsound.grows.file (rfl : blocked.get? ["packages"] = some (.file ByteArray.empty))
  obtain ⟨entry, hentry, -⟩ :=
    hsound.held course.finished hwriter hfault _ (ArtifactSet.mem_changes.mpr (.inl rfl))
  have hsegments : (writer.set.root userWeb.outputDir).segments = ["packages", writer.set.package] := by
    rw [ArtifactSet.root, Path.segments_join _ (root_package h hset),
      (isName_package h (by decide) hset).segments]
    rfl
  have hdirectory : course.last.tree.get? (Path.descend (Path.base [] _) ["packages"]) = some .directory :=
    FileTree.get?_of_prefix hentry (by simp [FileTree.Change.path, hsegments])
      (by simp [FileTree.Change.path, hsegments])
  rw [Path.base, ite_self] at hdirectory
  cases hfile.symm.trans hdirectory

end ApiScaffold.Run
