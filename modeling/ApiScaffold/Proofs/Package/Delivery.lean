import ApiScaffold.Proofs.Package.Order

namespace ApiScaffold

namespace FileTree

variable {tree later : FileTree} {cwd location : Location} {path : Path}

def Entry.content? : Entry → Option ByteArray
  | directory => none
  | file content => some content

def fileAt? (tree : FileTree) (location : Location) : Option ByteArray :=
  (tree.get? location).bind Entry.content?

lemma get?_eq_of_fileAt? (hkind : (tree.get? location).map Entry.isDirectory =
    (later.get? location).map Entry.isDirectory)
    (hfile : tree.fileAt? location = later.fileAt? location) : tree.get? location = later.get? location := by
  rw [fileAt?, fileAt?] at hfile
  rcases htree : tree.get? location with _ | _ | content <;>
    rcases hlater : later.get? location with _ | _ | other <;>
    simp_all [Entry.isDirectory, Entry.content?]

lemma fileAt?_ensureDirectory (tree : FileTree) (cwd : Location) (path : Path) (location : Location) :
    (tree.ensureDirectory cwd path).tree.fileAt? location = tree.fileAt? location := by
  rcases effect_apply tree cwd (.directory path) location with heq | ⟨-, hfollows, heq⟩
  · exact congrArg (Option.bind · Entry.content?) heq
  · have hnew : (tree.ensureDirectory cwd path).tree.fileAt? location = none :=
      congrArg (Option.bind · Entry.content?) heq
    rw [hnew, fileAt?]
    generalize tree.get? location = old at hfollows
    cases hfollows
    rfl

lemma fileAt?_write {content : String} (h : tree.write cwd path content = .ok later) (location : Location) :
    later.fileAt? location = if path.resolve cwd = location then some content.toUTF8
    else tree.fileAt? location := by
  obtain ⟨target, hlocate, hentry, rfl⟩ := exists_of_write h
  obtain rfl : target = path.resolve cwd := eq_descend_of_walk (locate_eq_ok_iff.mp hlocate).2
  have hne : path.resolve cwd ≠ [] := fun hnil => hentry (by rw [hnil]; rfl)
  rw [fileAt?, get?_set hne]
  split_ifs with heq <;> rfl

end FileTree

namespace ArtifactSet

open FileTree (settle)
open Relation (ReflTransGen)

section Delivery

variable (s : ArtifactSet) (cwd : Location) (outputDir : Path)

def deliverOne (tree : FileTree) (a : Artifact) : FileTree.Outcome :=
  let target := s.target outputDir a
  (tree.ensureDirectory cwd target.parent).andThen fun tree => settle tree (tree.write cwd target a.content)

def deliverRest (tree : FileTree) (written : List Path) :
    List Artifact → FileTree × Except FileTree.Fault (List Path)
  | [] => (tree, .ok written)
  | a :: rest =>
    let o := s.deliverOne cwd outputDir tree a
    match o.fault with
    | none => deliverRest o.tree (written ++ [s.target outputDir a]) rest
    | some fault => (o.tree, .error fault)

def deliver (tree : FileTree) : FileTree × Except FileTree.Fault (List Path) :=
  let o := tree.ensureDirectory cwd (s.root outputDir)
  match o.fault with
  | none => s.deliverRest cwd outputDir o.tree [] s.artifacts
  | some fault => (o.tree, .error fault)

def contentAt? (artifacts : List Artifact) (location : Location) : Option ByteArray :=
  (artifacts.reverse.find? fun a => (s.target outputDir a).resolve cwd = location).map fun a =>
    a.content.toUTF8

end Delivery

variable {s : ArtifactSet} {cwd location : Location} {outputDir : Path} {tree last : FileTree}
    {written : List Path}
  {artifacts : List Artifact} {fault : FileTree.Fault}

lemma deliverRest_eq (artifacts : List Artifact) (tree : FileTree) (written : List Path) :
    s.deliverRest cwd outputDir tree written artifacts =
      let o := tree.applyAll cwd (artifacts.flatMap fun a =>
        [.directory (s.target outputDir a).parent, .file (s.target outputDir a) a.content])
      (o.tree, o.fault.elim (.ok (written ++ artifacts.map (s.target outputDir))) .error) := by
  induction artifacts generalizing tree written with
  | nil => simp [deliverRest, FileTree.applyAll]
  | cons a rest ih =>
    have hend (o : FileTree.Outcome) : (o.andThen fun tree => ⟨tree, none⟩) = o := by
      rcases o with ⟨_, _ | _⟩ <;> rfl
    have hone : tree.applyAll cwd [.directory (s.target outputDir a).parent,
        .file (s.target outputDir a) a.content] =
        s.deliverOne cwd outputDir tree a := by
      simp only [FileTree.applyAll, hend]
      rfl
    rw [deliverRest, List.flatMap_cons, FileTree.applyAll_append, hone, FileTree.Outcome.andThen]
    cases hfault : (s.deliverOne cwd outputDir tree a).fault with
    | none => simp [ih]
    | some fault => simp [hfault]

lemma deliverRest_artifacts (artifacts : List Artifact) :
    ({ s with artifacts := artifacts }).deliverRest cwd outputDir = s.deliverRest cwd outputDir := by
  funext tree written files
  rw [deliverRest_eq, deliverRest_eq]
  rfl

lemma deliver_eq (s : ArtifactSet) (cwd : Location) (outputDir : Path) (tree : FileTree) :
    s.deliver cwd outputDir tree =
      ((s.write tree cwd outputDir).tree,
        (s.write tree cwd outputDir).fault.elim (.ok (s.targets outputDir)) .error) := by
  have hwrite : s.write tree cwd outputDir = (tree.ensureDirectory cwd (s.root outputDir)).andThen fun tree =>
      tree.applyAll cwd (s.artifacts.flatMap fun a =>
        [.directory (s.target outputDir a).parent, .file (s.target outputDir a) a.content]) := rfl
  rw [hwrite, deliver, FileTree.Outcome.andThen]
  cases hfault : (tree.ensureDirectory cwd (s.root outputDir)).fault with
  | none =>
    simp only [deliverRest_eq, List.nil_append]
    rfl
  | some fault => simp [hfault]

lemma contentAt?_cons (a : Artifact) (rest : List Artifact) (location : Location) :
    s.contentAt? cwd outputDir (a :: rest) location = (s.contentAt? cwd outputDir rest location).or
      (if (s.target outputDir a).resolve cwd = location then some a.content.toUTF8 else none) := by
  rw [contentAt?, contentAt?, List.reverse_cons, List.find?_append, Option.map_or, List.find?_singleton]
  split_ifs <;> simp_all

lemma contentAt?_eq_none (h : ∀ a ∈ artifacts, (s.target outputDir a).resolve cwd ≠ location) :
    s.contentAt? cwd outputDir artifacts location = none := by
  rw [contentAt?, List.find?_eq_none.mpr, Option.map_none]
  simpa using h

lemma fileAt?_deliverOne {a : Artifact} (h : (s.deliverOne cwd outputDir tree a).fault = none)
    (location : Location) :
    (s.deliverOne cwd outputDir tree a).tree.fileAt? location =
      if (s.target outputDir a).resolve cwd = location then some a.content.toUTF8
        else tree.fileAt? location := by
  obtain ⟨-, hnext⟩ := FileTree.andThen_of_fault_eq_none h
  rw [deliverOne, hnext] at h ⊢
  rw [FileTree.fileAt?_write (FileTree.settle_of_fault_eq_none h), FileTree.fileAt?_ensureDirectory]

lemma fileAt?_deliverOne_of_fault {a : Artifact} (h : (s.deliverOne cwd outputDir tree a).fault = some fault)
    (location : Location) : (s.deliverOne cwd outputDir tree a).tree.fileAt? location =
      tree.fileAt? location := by
  rw [deliverOne, FileTree.Outcome.andThen] at h ⊢
  cases hparent : (tree.ensureDirectory cwd (s.target outputDir a).parent).fault with
  | some _ => simp only [FileTree.fileAt?_ensureDirectory]
  | none =>
    rw [hparent] at h
    rw [← FileTree.fileAt?_ensureDirectory tree cwd (s.target outputDir a).parent]
    exact congrArg (FileTree.fileAt? · location) (FileTree.apply_file_of_fault h)

lemma deliverRest_ok {paths : List Path}
    (h : s.deliverRest cwd outputDir tree written artifacts = (last, .ok paths)) :
    paths = written ++ artifacts.map (s.target outputDir) ∧ ∀ location,
      last.fileAt? location = (s.contentAt? cwd outputDir artifacts location).or (tree.fileAt? location) := by
  induction artifacts generalizing tree written with
  | nil =>
    cases h
    simp [contentAt?]
  | cons a rest ih =>
    rw [deliverRest] at h
    split at h
    · rename_i hnone
      obtain ⟨hpaths, hfiles⟩ := ih h
      refine ⟨by simpa using hpaths, fun location => ?_⟩
      rw [hfiles, fileAt?_deliverOne hnone, contentAt?_cons, Option.or_assoc]
      split_ifs <;> rfl
    · cases h

lemma deliverRest_error (h : s.deliverRest cwd outputDir tree written artifacts = (last, .error fault)) :
    ∃ before a after middle, artifacts = before ++ a :: after ∧
      s.deliverRest cwd outputDir tree written before =
        (middle, .ok (written ++ before.map (s.target outputDir))) ∧
      s.deliverOne cwd outputDir middle a = ⟨last, some fault⟩ := by
  induction artifacts generalizing tree written with
  | nil => cases h
  | cons a rest ih =>
    rw [deliverRest] at h
    split at h
    · rename_i hnone
      obtain ⟨before, b, after, middle, rfl, hbefore, hfault⟩ := ih h
      refine ⟨a :: before, b, after, middle, rfl, ?_, hfault⟩
      rw [deliverRest, hnone, hbefore]
      simp
    · rename_i f hf
      cases h
      refine ⟨[], a, rest, tree, rfl, by simp [deliverRest], ?_⟩
      rw [← hf]

lemma deliver_ok {paths : List Path} (h : s.deliver cwd outputDir tree = (last, .ok paths)) :
    paths = s.targets outputDir ∧ ∀ location,
      last.fileAt? location = (s.contentAt? cwd outputDir s.artifacts location).or
        (tree.fileAt? location) := by
  rw [deliver] at h
  split at h
  · obtain ⟨hpaths, hfiles⟩ := deliverRest_ok h
    refine ⟨hpaths, fun location => ?_⟩
    rw [hfiles, FileTree.fileAt?_ensureDirectory]
  · cases h

lemma deliver_error (h : s.deliver cwd outputDir tree = (last, .error fault)) :
    tree.ensureDirectory cwd (s.root outputDir) = ⟨last, some fault⟩ ∨
    ∃ before a after middle, s.artifacts = before ++ a :: after ∧
      ({ s with artifacts := before }).deliver cwd outputDir tree =
        (middle, .ok (before.map (s.target outputDir))) ∧
      s.deliverOne cwd outputDir middle a = ⟨last, some fault⟩ := by
  rw [deliver] at h
  split at h
  · rename_i hroot
    obtain ⟨before, a, after, middle, heq, hbefore, hfault⟩ := deliverRest_error h
    refine .inr ⟨before, a, after, middle, heq, ?_, hfault⟩
    rw [← deliverRest_artifacts before] at hbefore
    rw [deliver]
    split
    · exact hbefore
    · rename_i hsome
      exact absurd (hroot.symm.trans hsome) (Option.some_ne_none _).symm
  · rename_i f hroot
    cases h
    exact .inl (by rw [← hroot])

lemma fileAt?_of_fault {a : Artifact} {before : List Artifact} {middle : FileTree}
    (hbefore : ({ s with artifacts := before }).deliver cwd outputDir tree = (middle, .ok written))
    (hfault : s.deliverOne cwd outputDir middle a = ⟨last, some fault⟩) (location : Location) :
    last.fileAt? location = (s.contentAt? cwd outputDir before location).or (tree.fileAt? location) := by
  have hfiles := fileAt?_deliverOne_of_fault (congrArg FileTree.Outcome.fault hfault) location
  rw [hfault] at hfiles
  exact hfiles.trans ((deliver_ok hbefore).2 location)

lemma fileAt?_deliver (s : ArtifactSet) (cwd : Location) (outputDir : Path) (tree : FileTree) :
    ∃ before ⊆ s.artifacts, ∀ location, (s.deliver cwd outputDir tree).1.fileAt? location =
      (s.contentAt? cwd outputDir before location).or (tree.fileAt? location) := by
  rcases h : s.deliver cwd outputDir tree with ⟨last, fault | paths⟩
  · rcases deliver_error h with hroot | ⟨before, a, after, middle, heq, hbefore, hfault⟩
    · refine ⟨[], List.nil_subset _, fun location => ?_⟩
      have hfiles := FileTree.fileAt?_ensureDirectory tree cwd (s.root outputDir) location
      rw [hroot] at hfiles
      exact hfiles
    · exact ⟨before, heq ▸ List.subset_append_left _ _, fileAt?_of_fault hbefore hfault⟩
  · exact ⟨s.artifacts, List.Subset.refl _, (deliver_ok h).2⟩

lemma exists_writing (s : ArtifactSet) (cwd : Location) (outputDir : Path) (tree : FileTree) : ∃ w : Writing,
    ReflTransGen (Writing.Step cwd) (Writing.start tree outputDir [s]) w ∧ w.Finished ∧
      w.tree = (s.write tree cwd outputDir).tree ∧ ∃ writer ∈ w.writers, writer.set = s ∧
        writer.fault = (s.write tree cwd outputDir).fault := by
  obtain ⟨w, hsteps, hfinished, htree, hfaults⟩ := Writing.steps_writeAll cwd outputDir [s] tree
  obtain ⟨writer, hwriter, hset⟩ := (Writing.sound_of_steps hsteps).exists_writer (List.mem_singleton_self s)
  have hfault : writer.fault ∈ w.writers.map Writer.fault := List.mem_map_of_mem hwriter
  rw [hfaults] at hfault
  exact ⟨w, hsteps, hfinished, htree, writer, hwriter, hset, List.mem_singleton.mp hfault⟩

lemma grows_write (s : ArtifactSet) (cwd : Location) (outputDir : Path) (tree : FileTree) :
    FileTree.Grows tree (s.write tree cwd outputDir).tree := by
  obtain ⟨w, hsteps, -, htree, -⟩ := s.exists_writing cwd outputDir tree
  exact htree ▸ (Writing.sound_of_steps hsteps).grows

lemma write_again (h : (s.write tree cwd outputDir).fault = none) :
    let last := (s.write tree cwd outputDir).tree
    (s.write last cwd outputDir).fault = none ∧ ∀ location,
      ((s.write last cwd outputDir).tree.get? location).map FileTree.Entry.isDirectory =
        (last.get? location).map FileTree.Entry.isDirectory := by
  intro last
  obtain ⟨w, hsteps, hfinished, htree, writer, hwriter, hset, hfault⟩ := s.exists_writing cwd outputDir tree
  have hheld : ∀ t ∈ [s], ∀ change ∈ t.changes outputDir, change.Held last cwd := by
    have hchanges := (Writing.sound_of_steps hsteps).held hfinished hwriter (hfault.trans h)
    rw [hset, htree] at hchanges
    exact List.forall_mem_singleton.mpr hchanges
  obtain ⟨again, hsteps, -, htree, writer, hwriter, -, hfault⟩ := s.exists_writing cwd outputDir last
  obtain ⟨hbetween, hnone⟩ := Writing.between_of_steps (.refl last) hheld hsteps
  rw [← htree, ← hfault]
  refine ⟨hnone writer hwriter, fun location => ?_⟩
  rcases hbetween.either location with heq | heq
  · rw [heq]
  · exact heq

lemma deliver_again {paths : List Path} (h : s.deliver cwd outputDir tree = (last, .ok paths)) :
    (s.deliver cwd outputDir last).2 = .ok paths ∧
      ∀ location, (s.deliver cwd outputDir last).1.get? location = last.get? location := by
  obtain ⟨rfl, hfiles⟩ := deliver_ok h
  rw [deliver_eq, Prod.mk.injEq] at h
  obtain ⟨rfl, hresult⟩ := h
  have hnone : (s.write tree cwd outputDir).fault = none := by
    cases hfault : (s.write tree cwd outputDir).fault with
    | none => rfl
    | some fault => simp [hfault] at hresult
  obtain ⟨hagain, hkind⟩ := write_again hnone
  have hdeliver : s.deliver cwd outputDir (s.write tree cwd outputDir).tree =
      ((s.write (s.write tree cwd outputDir).tree cwd outputDir).tree, .ok (s.targets outputDir)) := by
    rw [deliver_eq, hagain]
    rfl
  rw [hdeliver]
  refine ⟨rfl, fun location => FileTree.get?_eq_of_fileAt? (hkind location) ?_⟩
  rw [(deliver_ok hdeliver).2, hfiles, ← Option.or_assoc, Option.or_self]

/--
A delivery returns the target of each file in the order of the files, and all of them stand with
their contents. Where it ends with a fault, that is at the root of the package or at one file, and
only the files before this one were written. In either case directories stay, files stay, and a
place that is no target has the file that it had. What has been delivered can be delivered again,
which changes nothing.
-/
theorem delivered_up_to_fault (s : ArtifactSet) (cwd : Location) (outputDir : Path) (tree : FileTree) :
    let last := (s.deliver cwd outputDir tree).1
    let result := (s.deliver cwd outputDir tree).2
    (last = (s.write tree cwd outputDir).tree ∧
      result = (s.write tree cwd outputDir).fault.elim (.ok (s.targets outputDir)) .error) ∧
    (∀ paths, result = .ok paths →
      paths = s.artifacts.map (fun a => (outputDir.join s.package).join a.path) ∧
      ∀ location, last.fileAt? location =
        (s.contentAt? cwd outputDir s.artifacts location).or (tree.fileAt? location)) ∧
    (∀ fault, result = .error fault →
      (tree.ensureDirectory cwd (outputDir.join s.package) = ⟨last, some fault⟩ ∧
        ∀ location, last.fileAt? location = tree.fileAt? location) ∨
      ∃ before a after middle, s.artifacts = before ++ a :: after ∧
        ({ s with artifacts := before }).deliver cwd outputDir tree =
          (middle, .ok (before.map (s.target outputDir))) ∧
        s.deliverOne cwd outputDir middle a = ⟨last, some fault⟩ ∧
        ∀ location, last.fileAt? location =
          (s.contentAt? cwd outputDir before location).or (tree.fileAt? location)) ∧
    (∀ location, tree.get? location = some .directory → last.get? location = some .directory) ∧
    (∀ location, (tree.fileAt? location).isSome → (last.fileAt? location).isSome) ∧
    (∀ location, (∀ a ∈ s.artifacts, (s.target outputDir a).resolve cwd ≠ location) →
      last.fileAt? location = tree.fileAt? location) ∧
    ∀ paths, result = .ok paths →
      (s.deliver cwd outputDir last).2 = .ok paths ∧
      ∀ location, (s.deliver cwd outputDir last).1.get? location = last.get? location := by
  rcases h : s.deliver cwd outputDir tree with ⟨last, result⟩
  dsimp only
  have hwrite := deliver_eq s cwd outputDir tree
  rw [h, Prod.mk.injEq] at hwrite
  obtain ⟨hlast, hresult⟩ := hwrite
  have hgrows : FileTree.Grows tree last := hlast ▸ grows_write s cwd outputDir tree
  obtain ⟨before, hsubset, hfiles⟩ := fileAt?_deliver s cwd outputDir tree
  rw [h] at hfiles
  refine ⟨⟨hlast, hresult⟩, ?_, ?_, fun location => hgrows.directory, fun location hsome => ?_,
    fun location hne => ?_, ?_⟩
  · rintro paths rfl
    exact deliver_ok h
  · rintro fault rfl
    rcases deliver_error h with hroot | ⟨before, a, after, middle, heq, hbefore, hfault⟩
    · have hsame := FileTree.fileAt?_ensureDirectory tree cwd (s.root outputDir)
      rw [hroot] at hsame
      exact .inl ⟨hroot, hsame⟩
    · exact .inr ⟨before, a, after, middle, heq, hbefore, hfault, fileAt?_of_fault hbefore hfault⟩
  · rw [hfiles, Option.isSome_or, hsome, Bool.or_true]
  · rw [hfiles, contentAt?_eq_none fun a ha => hne a (hsubset ha), Option.none_or]
  · rintro paths rfl
    exact deliver_again h

end ArtifactSet

end ApiScaffold
