import ApiScaffold.FileTree.Change
import ApiScaffold.Proofs.Except

namespace ApiScaffold.FileTree

open Chain

variable {tree changed : FileTree} {cwd location : Location} {path : Path} {content : String}

lemma walk_set {entry : Entry} {target : Location} (ht : target ≠ [])
    (hentry : tree.get? target ≠ some .directory)
    {names : List String} (h : walk tree location names = .ok target) :
    walk (tree.set target entry) location names = .ok target := by
  induction names generalizing location with
  | nil => exact h
  | cons name rest ih =>
    rw [walk] at h ⊢
    split at h
    · cases h
    · cases h
    · rename_i hdirectory
      have hne : target ≠ location := by
        rintro rfl
        exact hentry hdirectory
      rw [get?_set ht, if_neg hne, hdirectory]
      obtain ⟨next, hnext, hrest⟩ := bind_eq_ok.mp h
      exact bind_eq_ok.mpr ⟨next, hnext, ih hrest⟩

lemma locate_eq_ok (h : tree.locate cwd path = .ok location) :
    path.text.contains '\x00' = false ∧ path.text.utf8ByteSize < maxPath ∧
      walk tree (if path.root = .relative then cwd else []) path.segments = .ok location := by
  rw [locate] at h
  by_cases hnull : path.text.contains '\x00'
  · rw [if_pos hnull] at h
    cases h
  by_cases hlong : maxPath ≤ path.text.utf8ByteSize
  · rw [if_neg hnull, if_pos hlong] at h
    cases h
  rw [if_neg hnull, if_neg hlong] at h
  refine ⟨Bool.eq_false_iff.mpr hnull, Nat.lt_of_not_le hlong, ?_⟩
  cases hwalk : walk tree (if path.root = .relative then cwd else []) path.segments with
  | ok target =>
    rw [hwalk] at h
    exact congrArg _ (Except.ok.inj h)
  | error errno =>
    rw [hwalk] at h
    cases h

lemma locate_set {entry : Entry} (hl : location ≠ []) (hentry : tree.get? location ≠ some .directory)
    (h : tree.locate cwd path = .ok location) : (tree.set location entry).locate cwd path = .ok location := by
  obtain ⟨hnull, hlong, hwalk⟩ := locate_eq_ok h
  rw [locate, hnull, if_neg Bool.false_ne_true, if_neg (Nat.not_le.mpr hlong), walk_set hl hentry hwalk]

lemma exists_of_write (h : tree.write cwd path content = .ok changed) :
    ∃ location, tree.locate cwd path = .ok location ∧
    tree.get? location ≠ some .directory ∧ changed = tree.set location (.file content.toUTF8) := by
  obtain ⟨location, hlocate, h⟩ := bind_eq_ok.mp h
  split at h
  · cases h
  · rename_i hentry
    exact ⟨location, hlocate, hentry, (Except.ok.inj h).symm⟩

lemma entryAt_write (h : tree.write cwd path content = .ok changed) :
    changed.entryAt cwd path = .ok (.file content.toUTF8) := by
  obtain ⟨location, hlocate, hentry, rfl⟩ := exists_of_write h
  have hl : location ≠ [] := by
    rintro rfl
    exact hentry rfl
  rw [entryAt, locate_set hl hentry hlocate, ok_bind, get?_set hl, if_pos rfl]

lemma exists?_write (h : tree.write cwd path content = .ok changed) :
    changed.exists? cwd path = .ok true := by
  rw [exists?, entryAt_write h]

lemma read_write (h : tree.write cwd path content = .ok changed) :
    changed.read cwd path = .ok content.toUTF8 := by
  rw [read, entryAt_write h, ok_bind]

lemma andThen_of_fault_eq_none {o : Outcome} {next : FileTree → Outcome} (h : (o.andThen next).fault = none) :
    o.fault = none ∧ o.andThen next = next o.tree := by
  obtain ⟨tree, fault⟩ := o
  cases fault with
  | none => exact ⟨rfl, rfl⟩
  | some fault => cases h

lemma settle_of_fault_eq_none {result : Except Fault FileTree} (h : (settle tree result).fault = none) :
    result = .ok (settle tree result).tree := by
  cases result with
  | ok changed => rfl
  | error fault => cases h

end ApiScaffold.FileTree
