import ApiScaffold.Proofs.FileTree.Write

/-!
Where paths lead while a tree grows: directories stay, and so does the way to what has once been
found. A directory is found together with all that it stands in.
-/

namespace ApiScaffold

open Chain

namespace Path

def descend (location : Location) (names : List String) : Location :=
  names.foldl (fun location name => if name = ".." then location.dropLast else location ++ [name]) location

def base (cwd : Location) (root : Root) : Location := if root = .relative then cwd else []

lemma resolve_eq (cwd : Location) (path : Path) :
    path.resolve cwd = descend (base cwd path.root) path.segments := rfl

lemma descend_append (location : Location) (names more : List String) :
    descend location (names ++ more) = descend (descend location names) more := List.foldl_append

lemma mem_descend {location : Location} {names : List String} {name : String}
    (h : name ∈ descend location names) :
    name ∈ location ∨ name ∈ names := by
  induction names generalizing location with
  | nil => exact .inl h
  | cons step rest ih =>
    rcases ih h with hmem | hmem
    · dsimp only at hmem
      split at hmem
      · exact .inl (List.dropLast_subset _ hmem)
      · rw [List.mem_append, List.mem_singleton] at hmem
        exact hmem.imp_right fun (heq : name = step) => heq ▸ List.mem_cons_self
    · exact .inr (List.mem_cons_of_mem _ hmem)

lemma mem_resolve {cwd : Location} {path : Path} {name : String} (h : name ∈ path.resolve cwd) :
    name ∈ cwd ∨ name ∈ path.segments := by
  rw [resolve_eq] at h
  refine (mem_descend h).imp_left fun hbase => ?_
  rw [base] at hbase
  split at hbase
  · exact hbase
  · cases hbase

lemma descend_of_notMem {names : List String} (h : ".." ∉ names) (location : Location) :
    descend location names = location ++ names := by
  induction names generalizing location with
  | nil => simp [descend]
  | cons name rest ih =>
    rw [List.mem_cons, not_or] at h
    have hstep : descend location (name :: rest) = descend (location ++ [name]) rest := by
      simp [descend, Ne.symm h.1]
    rw [hstep, ih h.2, List.append_assoc, List.singleton_append]

end Path

namespace FileTree

open ApiScaffold.Path (descend base)

variable {tree later : FileTree} {cwd location target : Location} {names : List String} {path : Path}

inductive Follows : Option Entry → Entry → Prop
  | fresh (entry : Entry) : Follows none entry
  | rewritten (old new : ByteArray) : Follows (some (.file old)) (.file new)

def Grows (tree later : FileTree) : Prop :=
  ∀ location, later.get? location = tree.get? location ∨
    ∃ entry, Follows (tree.get? location) entry ∧ later.get? location = some entry

lemma Grows.refl (tree : FileTree) : Grows tree tree := fun _ => .inl rfl

lemma Follows.trans {old : Option Entry} {entry next : Entry} (h : Follows old entry)
    (hnext : Follows (some entry) next) :
    Follows old next := by
  cases hnext
  cases h with
  | fresh => exact .fresh _
  | rewritten => exact .rewritten _ _

lemma Grows.trans {last : FileTree} (h : Grows tree later) (hlast : Grows later last) : Grows tree last := by
  intro location
  rcases hlast location with heq | ⟨entry, hentry, heq⟩
  · rw [heq]
    exact h location
  · refine .inr ⟨entry, ?_, heq⟩
    rcases h location with hsame | ⟨middle, hmiddle, hsame⟩
    · rwa [← hsame]
    · rw [hsame] at hentry
      exact hmiddle.trans hentry

lemma Grows.directory (h : Grows tree later) (hd : tree.get? location = some .directory) :
    later.get? location = some .directory := by
  rcases h location with heq | ⟨entry, hentry, -⟩
  · rw [heq, hd]
  · rw [hd] at hentry
    cases hentry

lemma Grows.file (h : Grows tree later) {content : ByteArray}
    (hf : tree.get? location = some (.file content)) :
    ∃ content', later.get? location = some (.file content') := by
  rcases h location with heq | ⟨entry, hentry, heq⟩
  · exact ⟨content, heq.trans hf⟩
  · rw [hf] at hentry
    cases hentry
    exact ⟨_, heq⟩

lemma child_eq_ok {name : String} (h : child location name = .ok target) :
    target = descend location [name] := by
  rw [child] at h
  by_cases hup : name = ".."
  · rw [if_pos hup] at h
    simpa [descend, hup] using (Except.ok.inj h).symm
  · rw [if_neg hup] at h
    split at h
    · cases h
    · simpa [descend, hup] using (Except.ok.inj h).symm

lemma walk_cons_eq_ok {name : String} : walk tree location (name :: names) = .ok target ↔
    tree.get? location = some .directory ∧ ∃ next, child location name = .ok next ∧
    walk tree next names = .ok target := by
  rw [walk]
  cases hentry : tree.get? location with
  | none => simp
  | some entry =>
    cases entry with
    | file => simp
    | directory => simp [bind_eq_ok]

lemma walk_append (tree : FileTree) (location : Location) (names more : List String) :
    walk tree location (names ++ more) = walk tree location names >>= fun next => walk tree next more := by
  induction names generalizing location with
  | nil => rfl
  | cons name rest ih =>
    rw [List.cons_append, walk, walk]
    cases tree.get? location with
    | none => rfl
    | some entry =>
      cases entry with
      | file => rfl
      | directory => cases hchild : child location name <;> simp [ih]

lemma eq_descend_of_walk (h : walk tree location names = .ok target) : target = descend location names := by
  induction names generalizing location with
  | nil => exact (Except.ok.inj h).symm
  | cons name rest ih =>
    obtain ⟨-, next, hnext, hrest⟩ := walk_cons_eq_ok.mp h
    rw [ih hrest, child_eq_ok hnext, ← Path.descend_append, List.singleton_append]

lemma walk_of_grows (hg : Grows tree later) (h : walk tree location names = .ok target) :
    walk later location names = .ok target := by
  induction names generalizing location with
  | nil => exact h
  | cons name rest ih =>
    obtain ⟨hd, next, hnext, hrest⟩ := walk_cons_eq_ok.mp h
    exact walk_cons_eq_ok.mpr ⟨hg.directory hd, next, hnext, ih hrest⟩

def Fits (path : Path) : Prop := '\x00' ∉ path.text.toList ∧ path.text.utf8ByteSize < maxPath

lemma locate_of_fits (h : Fits path) : tree.locate cwd path =
    (walk tree (base cwd path.root) path.segments).mapError (.system · path) := by
  rw [locate, String.contains_char_eq, decide_eq_false h.1, if_neg Bool.false_ne_true,
    if_neg (Nat.not_le.mpr h.2)]
  cases hwalk : walk tree (base cwd path.root) path.segments <;> simp_all [base]

lemma locate_eq_ok_iff : tree.locate cwd path = .ok location ↔
    Fits path ∧ walk tree (base cwd path.root) path.segments = .ok location := by
  constructor
  · intro h
    obtain ⟨hnull, hlong, hwalk⟩ := locate_eq_ok h
    rw [String.contains_char_eq, decide_eq_false_iff_not] at hnull
    exact ⟨⟨hnull, hlong⟩, hwalk⟩
  · rintro ⟨hfits, hwalk⟩
    rw [locate_of_fits hfits, hwalk]
    rfl

lemma entryAt_eq_ok {entry : Entry} : tree.entryAt cwd path = .ok entry ↔
    tree.locate cwd path = .ok (path.resolve cwd) ∧ tree.get? (path.resolve cwd) = some entry := by
  constructor
  · intro h
    obtain ⟨location, hlocate, h⟩ := bind_eq_ok.mp h
    obtain rfl : location = path.resolve cwd := eq_descend_of_walk (locate_eq_ok_iff.mp hlocate).2
    split at h
    · rename_i hentry
      rw [Except.ok.inj h] at hentry
      exact ⟨hlocate, hentry⟩
    · cases h
  · rintro ⟨hlocate, hentry⟩
    rw [entryAt, hlocate, ok_bind, hentry]

lemma read_eq_ok_iff {content : ByteArray} : tree.read cwd path = .ok content ↔
    tree.entryAt cwd path = .ok (.file content) := by
  rw [read, bind_eq_ok]
  constructor
  · rintro ⟨entry, hentry, h⟩
    cases entry with
    | directory => cases h
    | file found => rw [hentry, Except.ok.inj h]
  · exact fun h => ⟨_, h, rfl⟩

lemma locate_of_grows (hg : Grows tree later) (h : tree.locate cwd path = .ok location) :
    later.locate cwd path = .ok location := by
  obtain ⟨hfits, hwalk⟩ := locate_eq_ok_iff.mp h
  exact locate_eq_ok_iff.mpr ⟨hfits, walk_of_grows hg hwalk⟩

lemma directory_of_grows (hg : Grows tree later) (h : tree.entryAt cwd path = .ok .directory) :
    later.entryAt cwd path = .ok .directory := by
  obtain ⟨hlocate, hd⟩ := entryAt_eq_ok.mp h
  exact entryAt_eq_ok.mpr ⟨locate_of_grows hg hlocate, hg.directory hd⟩

end FileTree

end ApiScaffold
