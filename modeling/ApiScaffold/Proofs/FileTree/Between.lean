import ApiScaffold.Proofs.FileTree.Change
import ApiScaffold.Proofs.FileTree.Path
import Mathlib.Data.List.Induction

/-!
Trees on the way from a first tree to a last one: each place is as it was at first or has the kind that it
has in the end. What the last tree holds can be made in any tree on the way, and leads to one again.
-/

namespace ApiScaffold.FileTree

open Chain
open ApiScaffold.Path (descend base)

variable {first tree last : FileTree} {cwd location target : Location} {root : Path.Root} {name : String}
  {names : List String} {path : Path}

def Entry.isDirectory : Entry → Bool
  | directory => true
  | file _ => false

def Change.Held (tree : FileTree) (cwd : Location) (change : Change) : Prop :=
  ∃ entry, tree.entryAt cwd change.path = .ok entry ∧ entry.isDirectory = change.entry.isDirectory

structure Between (first tree last : FileTree) : Prop where
  grows : Grows first last
  either : ∀ location, tree.get? location = first.get? location ∨
    (tree.get? location).map Entry.isDirectory = (last.get? location).map Entry.isDirectory

lemma eq_directory {entry : Option Entry} (h : entry.map Entry.isDirectory = some true) :
    entry = some .directory := by
  cases entry with
  | none => cases h
  | some entry =>
    cases entry with
    | directory => rfl
    | file content => cases h

namespace Between

lemma get?_of_directory (h : Between first tree last) (hd : last.get? location = some .directory) :
    tree.get? location = none ∨ tree.get? location = some .directory := by
  rcases h.either location with heq | heq
  · rcases h.grows location with hsame | ⟨entry, hentry, hlast⟩
    · exact .inr (heq.trans (hsame.symm.trans hd))
    · rw [hd] at hlast
      cases hlast
      generalize hold : first.get? location = old at hentry
      cases hentry
      exact .inl (heq.trans hold)
  · rw [hd] at heq
    exact .inr (eq_directory heq)

lemma ne_directory_of_file (h : Between first tree last) {content : ByteArray}
    (hf : last.get? location = some (.file content)) : tree.get? location ≠ some .directory := by
  intro hd
  rcases h.either location with heq | heq
  · rw [h.grows.directory (heq.symm.trans hd)] at hf
    cases hf
  · rw [hd, hf] at heq
    cases heq

lemma set (h : Between first tree last) {entry : Entry} (hne : location ≠ [])
    (he : (last.get? location).map Entry.isDirectory = some entry.isDirectory) :
    Between first (tree.set location entry) last := by
  refine ⟨h.grows, fun other => ?_⟩
  rw [get?_set hne]
  by_cases heq : location = other
  · subst heq
    exact .inr (by rw [if_pos rfl, he, Option.map_some])
  · rw [if_neg heq]
    exact h.either other

lemma walk (h : Between first tree last) (hlast : last.walk location names = .ok target) :
    tree.walk location names = .ok target ∨ tree.walk location names = .error .notFound := by
  induction names generalizing location with
  | nil => exact .inl hlast
  | cons name rest ih =>
    obtain ⟨hd, next, hnext, hrest⟩ := walk_cons_eq_ok.mp hlast
    rcases h.get?_of_directory hd with hnone | hd
    · exact .inr (by rw [FileTree.walk, hnone])
    · rw [FileTree.walk, hd]
      simpa [hnext] using ih hrest

lemma locate (h : Between first tree last) (hlast : last.locate cwd path = .ok location) :
    tree.locate cwd path = .ok location ∨ tree.locate cwd path = .error (.system .notFound path) := by
  obtain ⟨hfits, hwalk⟩ := locate_eq_ok_iff.mp hlast
  rw [locate_of_fits hfits]
  rcases h.walk hwalk with hwalk | hwalk
  · exact .inl (by rw [hwalk]; rfl)
  · exact .inr (by rw [hwalk]; rfl)

end Between

lemma fits_outer (h : Fits ⟨root, names ++ [name]⟩) : Fits ⟨root, names⟩ := by
  obtain ⟨hnull, hsize⟩ := h
  constructor
  · rw [Path.notMem_text (by decide) (by decide)] at hnull ⊢
    exact fun part hpart => hnull part (List.mem_append_left _ hpart)
  · by_cases hnil : names = []
    · subst hnil
      cases root <;> decide
    · rw [Path.text_of_ne_nil (by simp), String.intercalate_append_of_ne_nil hnil (by simp)] at hsize
      rw [Path.text_of_ne_nil hnil]
      simp only [String.utf8ByteSize_append] at hsize ⊢
      omega

lemma entryAt_outer {entry : Entry} (h : tree.entryAt cwd ⟨root, names ++ [name]⟩ = .ok entry) :
    tree.entryAt cwd ⟨root, names⟩ = .ok .directory := by
  obtain ⟨hfits, hwalk⟩ := locate_eq_ok_iff.mp (entryAt_eq_ok.mp h).1
  rw [walk_append] at hwalk
  obtain ⟨location, hlocation, hchild⟩ := bind_eq_ok.mp hwalk
  have hd := (walk_cons_eq_ok.mp hchild).1
  obtain rfl := eq_descend_of_walk hlocation
  exact entryAt_eq_ok.mpr ⟨locate_eq_ok_iff.mpr ⟨fits_outer hfits, hlocation⟩, hd⟩

lemma get?_of_prefix {entry : Entry} (h : tree.entryAt cwd path = .ok entry) (hp : names <+: path.segments)
    (hne : names ≠ path.segments) : tree.get? (descend (base cwd path.root) names) = some .directory := by
  obtain ⟨root, segments⟩ := path
  obtain ⟨more, rfl⟩ := hp
  induction more using List.reverseRecOn generalizing entry with
  | nil => simp at hne
  | append_singleton more last ih =>
    rw [← List.append_assoc] at h
    have hd := entryAt_outer h
    by_cases hmore : more = []
    · subst hmore
      rw [List.append_nil] at hd
      exact (entryAt_eq_ok.mp hd).2
    · exact ih hd (by simpa using hmore)

lemma locate_of_outer (hd : tree.entryAt cwd ⟨root, names⟩ = .ok .directory)
    (hlast : last.locate cwd ⟨root, names ++ [name]⟩ = .ok location) :
    tree.locate cwd ⟨root, names ++ [name]⟩ = .ok location := by
  obtain ⟨hlocate, hd⟩ := entryAt_eq_ok.mp hd
  obtain ⟨hfits, hwalk⟩ := locate_eq_ok_iff.mp hlast
  rw [walk_append] at hwalk
  obtain ⟨outer, houter, hchild⟩ := bind_eq_ok.mp hwalk
  obtain ⟨-, next, hnext, hend⟩ := walk_cons_eq_ok.mp hchild
  obtain rfl := eq_descend_of_walk houter
  refine locate_eq_ok_iff.mpr ⟨hfits, ?_⟩
  rw [walk_append]
  exact bind_eq_ok.mpr ⟨_, (locate_eq_ok_iff.mp hlocate).2, walk_cons_eq_ok.mpr ⟨hd, next, hnext, hend⟩⟩

namespace Between

lemma ensureOne (h : Between first tree last) (hlast : last.entryAt cwd path = .ok .directory)
    (hlocate : tree.locate cwd path = .ok (path.resolve cwd)) :
    ∃ made, tree.ensureOne cwd path = .ok made ∧ Between first made last := by
  obtain ⟨-, hd⟩ := entryAt_eq_ok.mp hlast
  rcases h.get?_of_directory hd with hnone | hthere
  · have hmade : tree.makeDirectory cwd path = .ok (tree.set (path.resolve cwd) .directory) := by
      rw [makeDirectory, hlocate, ok_bind, hnone]
    have hne : path.resolve cwd ≠ [] := fun hnil => by simp [hnil, get?] at hnone
    exact ⟨_, by rw [FileTree.ensureOne, hmade], h.set hne (by rw [hd]; rfl)⟩
  · have hmade : tree.makeDirectory cwd path = .error (.system .exists path) := by
      rw [makeDirectory, hlocate, ok_bind, hthere]
    have hdirectory : tree.isDirectory cwd path := isDirectory_iff.mpr (entryAt_eq_ok.mpr ⟨hlocate, hthere⟩)
    refine ⟨tree, ?_, h⟩
    rw [FileTree.ensureOne, hmade]
    simp [hdirectory]

lemma ensureReversed (h : Between first tree last) {reversed : List String}
    (hlast : last.entryAt cwd ⟨root, reversed.reverse⟩ = .ok .directory) :
    (tree.ensureReversed cwd root reversed).fault = none ∧
      Between first (tree.ensureReversed cwd root reversed).tree last := by
  have hsettle {t : FileTree} {p : Path} (hmade : ∃ made,
      t.ensureOne cwd p = .ok made ∧ Between first made last) :
      (settle t (t.ensureOne cwd p)).fault = none ∧
      Between first (settle t (t.ensureOne cwd p)).tree last := by
    obtain ⟨made, hmade, hbetween⟩ := hmade
    rw [hmade]
    exact ⟨rfl, hbetween⟩
  -- the segments stand in reverse, so that the outer directory is the tail
  induction reversed with
  | nil =>
    have hlocate : tree.locate cwd ⟨root, []⟩ = .ok (Path.resolve cwd ⟨root, []⟩) :=
      locate_eq_ok_iff.mpr ⟨(locate_eq_ok_iff.mp (entryAt_eq_ok.mp hlast).1).1, rfl⟩
    rcases ensureReversed_cases tree cwd root [] with ⟨heq, -⟩ | ⟨_, _, heq, -⟩
    · rw [heq]
      exact hsettle (h.ensureOne hlast hlocate)
    · cases heq
  | cons name outer ih =>
    have hlocated := (entryAt_eq_ok.mp hlast).1
    rcases ensureReversed_cases tree cwd root (name :: outer) with ⟨heq, hfound⟩ | ⟨_, _, ⟨⟩, heq⟩
    · rw [heq]
      refine hsettle (h.ensureOne hlast ((h.locate hlocated).resolve_right fun hmissing => ?_))
      refine hfound ⟨root, (name :: outer).reverse⟩ (List.cons_ne_nil _ _) ?_
      rw [FileTree.ensureOne, makeDirectory, hmissing]
      rfl
    · rw [List.reverse_cons] at hlast hlocated
      obtain ⟨hnone, hbetween⟩ := ih (entryAt_outer hlast)
      have houter := entryAt_ensureReversed hnone
      rw [heq, Outcome.andThen, hnone, List.reverse_cons]
      exact hsettle (hbetween.ensureOne hlast (locate_of_outer houter hlocated))

lemma write (h : Between first tree last) {path : Path} {old : ByteArray}
    (hlast : last.entryAt cwd path = .ok (.file old))
    (hparent : tree.entryAt cwd path.parent = .ok .directory) (content : String) :
    (tree.apply cwd (.file path content)).fault = none ∧
    Between first (tree.apply cwd (.file path content)).tree last := by
  obtain ⟨hlocated, hfile⟩ := entryAt_eq_ok.mp hlast
  have hlocate : tree.locate cwd path = .ok (path.resolve cwd) := by
    obtain ⟨root, segments⟩ := path
    cases segments using List.reverseRecOn with
    | nil => exact locate_eq_ok_iff.mpr ⟨(locate_eq_ok_iff.mp hlocated).1, rfl⟩
    | append_singleton names name =>
      rw [Path.parent, List.dropLast_concat] at hparent
      exact locate_of_outer hparent hlocated
  have hentry := h.ne_directory_of_file hfile
  have hwrite : tree.write cwd path content = .ok (tree.set (path.resolve cwd) (.file content.toUTF8)) := by
    rw [FileTree.write, hlocate, ok_bind]
    split
    · contradiction
    · rfl
  have hne : path.resolve cwd ≠ [] := fun hnil => hentry (by rw [hnil]; rfl)
  have happly : tree.apply cwd (.file path content) = settle tree (tree.write cwd path content) := rfl
  rw [happly, hwrite]
  exact ⟨rfl, h.set hne (by rw [hfile]; rfl)⟩

lemma apply (h : Between first tree last) {change : Change} (hlast : change.Held last cwd)
    (hparent : ∀ path content, change = .file path content → tree.entryAt cwd path.parent = .ok .directory) :
    (tree.apply cwd change).fault = none ∧ Between first (tree.apply cwd change).tree last := by
  obtain ⟨entry, hlast, hkind⟩ := hlast
  cases change with
  | directory path =>
    obtain rfl : entry = .directory := Option.some.inj (eq_directory (congrArg some hkind))
    have hreversed : last.entryAt cwd ⟨path.root, path.segments.reverse.reverse⟩ = .ok .directory := by
      rw [List.reverse_reverse]
      exact hlast
    exact h.ensureReversed hreversed
  | file path content =>
    cases entry with
    | directory => cases hkind
    | file old => exact h.write hlast (hparent path content rfl) content

end Between

end ApiScaffold.FileTree
