import ApiScaffold.FileTree.Change
import ApiScaffold.Proofs.FileTree.Path
import ApiScaffold.Proofs.FileTree.Walk

namespace ApiScaffold.FileTree

open Chain
open ApiScaffold.Path (descend base)

namespace Change

def path : Change → Path
  | directory path => path
  | file path _ => path

def entry : Change → Entry
  | directory _ => .directory
  | file _ content => .file content.toUTF8

def Covers (cwd : Location) : Change → Location → Prop
  | directory path, location =>
    ∃ names, names <+: path.segments ∧ location = descend (base cwd path.root) names
  | file path _, location => location = path.resolve cwd

lemma covers_path (cwd : Location) (change : Change) : change.Covers cwd (change.path.resolve cwd) := by
  cases change with
  | directory path => exact ⟨path.segments, List.prefix_refl _, rfl⟩
  | file path content => rfl

def Effect (cwd : Location) (change : Change) (tree later : FileTree) : Prop :=
  ∀ location, later.get? location = tree.get? location ∨ change.Covers cwd location ∧
    Follows (tree.get? location) change.entry ∧ later.get? location = some change.entry

end Change

variable {tree later : FileTree} {cwd location : Location} {path : Path} {change : Change} {fault : Fault}

namespace Change.Effect

lemma refl (cwd : Location) (change : Change) (tree : FileTree) : change.Effect cwd tree tree :=
  fun _ => .inl rfl

lemma trans {last : FileTree} (h : change.Effect cwd tree later) (hlast : change.Effect cwd later last) :
    change.Effect cwd tree last := by
  intro location
  rcases hlast location with heq | ⟨hcovers, hentry, heq⟩
  · rw [heq]
    exact h location
  · refine .inr ⟨hcovers, ?_, heq⟩
    rcases h location with hsame | ⟨-, hfirst, hsame⟩
    · rwa [← hsame]
    · exact hfirst

lemma grows (h : change.Effect cwd tree later) : Grows tree later := by
  intro location
  rcases h location with heq | ⟨-, hentry, heq⟩
  · exact .inl heq
  · exact .inr ⟨_, hentry, heq⟩

lemma set (hcovers : change.Covers cwd location) (hentry : Follows (tree.get? location) change.entry) :
    change.Effect cwd tree (tree.set location change.entry) := by
  have hne : location ≠ [] := by
    rintro rfl
    cases hentry
  intro other
  rw [get?_set hne]
  by_cases heq : location = other
  · subst heq
    rw [if_pos rfl]
    exact .inr ⟨hcovers, hentry, rfl⟩
  · exact .inl (if_neg heq)

lemma outer {names : List String} (hnames : names <+: path.segments)
    (h : (Change.directory ⟨path.root, names⟩).Effect cwd tree later) :
    (Change.directory path).Effect cwd tree later := by
  intro location
  rcases h location with heq | ⟨⟨more, hmore, hlocation⟩, hentry, heq⟩
  · exact .inl heq
  · exact .inr ⟨⟨more, hmore.trans hnames, hlocation⟩, hentry, heq⟩

end Change.Effect

def Fault.IsSystem (fault : Fault) : Prop := ∃ errno path, fault = .system errno path

lemma locate_isSystem (hnull : '\x00' ∉ path.text.toList) (h : tree.locate cwd path = .error fault) :
    fault.IsSystem := by
  rw [locate, String.contains_char_eq, decide_eq_false hnull, if_neg Bool.false_ne_true] at h
  split at h
  · exact ⟨_, _, (Except.error.inj h).symm⟩
  · split at h
    · cases h
    · exact ⟨_, _, (Except.error.inj h).symm⟩

lemma makeDirectory_isSystem (hnull : '\x00' ∉ path.text.toList)
    (h : tree.makeDirectory cwd path = .error fault) :
    fault.IsSystem := by
  rw [makeDirectory] at h
  cases hlocate : tree.locate cwd path with
  | error f =>
    rw [hlocate] at h
    cases h
    exact locate_isSystem hnull hlocate
  | ok location =>
    rw [hlocate, ok_bind] at h
    split at h
    · exact ⟨_, _, (Except.error.inj h).symm⟩
    · cases h

lemma makeDirectory_eq_ok (h : tree.makeDirectory cwd path = .ok later) :
    tree.locate cwd path = .ok (path.resolve cwd) ∧
    tree.get? (path.resolve cwd) = none ∧ later = tree.set (path.resolve cwd) .directory := by
  obtain ⟨location, hlocate, h⟩ := bind_eq_ok.mp h
  obtain rfl : location = path.resolve cwd := eq_descend_of_walk (locate_eq_ok_iff.mp hlocate).2
  split at h
  · cases h
  · rename_i hentry
    exact ⟨hlocate, hentry, (Except.ok.inj h).symm⟩

lemma isDirectory_iff : tree.isDirectory cwd path ↔ tree.entryAt cwd path = .ok .directory := by
  rw [isDirectory]
  split
  · simp_all
  · rename_i hne
    simpa using hne

lemma ensureOne_eq_ok (h : tree.ensureOne cwd path = .ok later) :
    (tree.entryAt cwd path = .ok .directory ∧ later = tree) ∨ (tree.locate cwd path = .ok (path.resolve cwd) ∧
      tree.get? (path.resolve cwd) = none ∧ later = tree.set (path.resolve cwd) .directory) := by
  rw [ensureOne] at h
  split at h
  · rename_i hmade
    rw [← Except.ok.inj h]
    exact .inr (makeDirectory_eq_ok hmade)
  · cases h
  · cases h
  · split at h
    · rename_i hd
      exact .inl ⟨isDirectory_iff.mp hd, (Except.ok.inj h).symm⟩
    · cases h

lemma ensureOne_isSystem (hnull : '\x00' ∉ path.text.toList) (h : tree.ensureOne cwd path = .error fault) :
    fault.IsSystem := by
  rw [ensureOne] at h
  split at h
  · cases h
  · exact ⟨_, _, (Except.error.inj h).symm⟩
  · rename_i hmade
    cases h
    exact makeDirectory_isSystem hnull hmade
  · rename_i hmade
    split at h
    · cases h
    · cases h
      exact makeDirectory_isSystem hnull hmade

lemma effect_ensureOne (tree : FileTree) (cwd : Location) (path : Path) :
    (Change.directory path).Effect cwd tree (settle tree (tree.ensureOne cwd path)).tree := by
  cases h : tree.ensureOne cwd path with
  | error fault => exact .refl cwd _ tree
  | ok later =>
    rcases ensureOne_eq_ok h with ⟨-, rfl⟩ | ⟨-, hnone, rfl⟩
    · exact .refl cwd _ _
    · exact .set (Change.covers_path cwd (.directory path)) (hnone ▸ .fresh _)

lemma entryAt_ensureOne (h : tree.ensureOne cwd path = .ok later) :
    later.entryAt cwd path = .ok .directory := by
  rcases ensureOne_eq_ok h with ⟨hd, rfl⟩ | ⟨hlocate, hnone, rfl⟩
  · exact hd
  · have hne : path.resolve cwd ≠ [] := fun hnil => by simp [hnil, get?] at hnone
    refine entryAt_eq_ok.mpr ⟨locate_set hne (by simp [hnone]) hlocate, ?_⟩
    rw [get?_set hne, if_pos rfl]

lemma ensureReversed_cases (tree : FileTree) (cwd : Location) (root : Path.Root) (reversed : List String) :
    (ensureReversed tree cwd root reversed = settle tree (tree.ensureOne cwd ⟨root, reversed.reverse⟩) ∧
      ∀ p, reversed ≠ [] → tree.ensureOne cwd ⟨root, reversed.reverse⟩ ≠ .error (.system .notFound p)) ∨
    ∃ last outer, reversed = last :: outer ∧ ensureReversed tree cwd root reversed =
      (ensureReversed tree cwd root outer).andThen fun made =>
      settle made (made.ensureOne cwd ⟨root, reversed.reverse⟩) := by
  rw [ensureReversed.eq_def]
  dsimp only
  split
  · exact .inr ⟨_, _, rfl, rfl⟩
  · rename_i hother
    refine .inl ⟨rfl, fun p hne hmissing => ?_⟩
    obtain ⟨last, outer, rfl⟩ := List.exists_cons_of_ne_nil hne
    exact hother last outer p rfl hmissing

lemma effect_andThen {o : Outcome} {next : FileTree → Outcome} (h : change.Effect cwd tree o.tree)
    (hnext : ∀ made, change.Effect cwd made (next made).tree) :
    change.Effect cwd tree (o.andThen next).tree := by
  rw [Outcome.andThen]
  split
  · exact h.trans (hnext o.tree)
  · exact h

lemma effect_ensureReversed (tree : FileTree) (cwd : Location) (root : Path.Root) (reversed : List String) :
    (Change.directory ⟨root, reversed.reverse⟩).Effect cwd tree
      (ensureReversed tree cwd root reversed).tree := by
  induction reversed with
  | nil =>
    rcases ensureReversed_cases tree cwd root [] with ⟨h, -⟩ | ⟨_, _, h, -⟩
    · rw [h]
      exact effect_ensureOne _ _ _
    · cases h
  | cons last outer ih =>
    rcases ensureReversed_cases tree cwd root (last :: outer) with ⟨h, -⟩ | ⟨_, _, ⟨⟩, h⟩
    · rw [h]
      exact effect_ensureOne _ _ _
    · rw [h]
      have houter : (Change.directory ⟨root, (last :: outer).reverse⟩).Effect cwd tree
          (ensureReversed tree cwd root outer).tree := ih.outer (by simp)
      exact effect_andThen houter fun made => effect_ensureOne _ _ _

lemma effect_apply (tree : FileTree) (cwd : Location) (change : Change) :
    change.Effect cwd tree (tree.apply cwd change).tree := by
  cases change with
  | directory path =>
    have h := effect_ensureReversed tree cwd path.root path.segments.reverse
    rwa [List.reverse_reverse] at h
  | file path content =>
    rw [apply]
    cases hwrite : tree.write cwd path content with
    | error fault => exact .refl cwd _ tree
    | ok later =>
      obtain ⟨location, hlocate, hentry, rfl⟩ := exists_of_write hwrite
      obtain rfl : location = path.resolve cwd := eq_descend_of_walk (locate_eq_ok_iff.mp hlocate).2
      have hfollows : Follows (tree.get? (path.resolve cwd)) (.file content.toUTF8) := by
        cases hold : tree.get? (path.resolve cwd) with
        | none => exact .fresh _
        | some entry =>
          cases entry with
          | directory => exact absurd hold hentry
          | file old => exact .rewritten old _
      exact Change.Effect.set rfl hfollows

lemma covered_applyAll (tree : FileTree) (cwd : Location) (changes : List Change) (location : Location) :
    (tree.applyAll cwd changes).tree.get? location = tree.get? location ∨
    ∃ change ∈ changes, change.Covers cwd location ∧
      (tree.applyAll cwd changes).tree.get? location = some change.entry := by
  induction changes generalizing tree with
  | nil => exact .inl rfl
  | cons change rest ih =>
    rw [applyAll, Outcome.andThen]
    have hfirst : (tree.apply cwd change).tree.get? location = tree.get? location ∨ ∃ c ∈ change :: rest,
        c.Covers cwd location ∧ (tree.apply cwd change).tree.get? location = some c.entry := by
      rcases effect_apply tree cwd change location with heq | ⟨hcovers, -, heq⟩
      · exact .inl heq
      · exact .inr ⟨change, List.mem_cons_self, hcovers, heq⟩
    split
    · rcases ih (tree.apply cwd change).tree with heq | ⟨c, hc, hcovers, heq⟩
      · rwa [heq]
      · exact .inr ⟨c, List.mem_cons_of_mem change hc, hcovers, heq⟩
    · exact hfirst

lemma entryAt_ensureReversed {root : Path.Root} {reversed : List String}
    (h : (ensureReversed tree cwd root reversed).fault = none) :
    (ensureReversed tree cwd root reversed).tree.entryAt cwd ⟨root, reversed.reverse⟩ = .ok .directory := by
  rcases ensureReversed_cases tree cwd root reversed with ⟨heq, -⟩ | ⟨last, outer, -, heq⟩
  · rw [heq] at h ⊢
    exact entryAt_ensureOne (settle_of_fault_eq_none h)
  · rw [heq] at h ⊢
    obtain ⟨-, hnext⟩ := andThen_of_fault_eq_none h
    rw [hnext] at h ⊢
    exact entryAt_ensureOne (settle_of_fault_eq_none h)

lemma entryAt_apply (h : (tree.apply cwd change).fault = none) :
    (tree.apply cwd change).tree.entryAt cwd change.path = .ok change.entry := by
  cases change with
  | directory path =>
    have hd : (ensureReversed tree cwd path.root path.segments.reverse).tree.entryAt cwd
        ⟨path.root, path.segments.reverse.reverse⟩ = .ok .directory := entryAt_ensureReversed h
    rwa [List.reverse_reverse] at hd
  | file path content => exact entryAt_write (settle_of_fault_eq_none h)

lemma settle_eq_some {result : Except Fault FileTree} (h : (settle tree result).fault = some fault) :
    result = .error fault := by
  cases result with
  | ok later => cases h
  | error f => exact congrArg _ (Option.some.inj h)

lemma ensureReversed_isSystem {root : Path.Root} {reversed : List String}
    (hnull : ∀ name ∈ reversed, '\x00' ∉ name.toList)
    (h : (ensureReversed tree cwd root reversed).fault = some fault) : fault.IsSystem := by
  have htext {reversed : List String} (hnull : ∀ name ∈ reversed, '\x00' ∉ name.toList) :
      '\x00' ∉ (Path.text ⟨root, reversed.reverse⟩).toList := by
    rw [Path.notMem_text (by decide) (by decide)]
    exact fun name hname => hnull name (List.mem_reverse.mp hname)
  induction reversed with
  | nil =>
    rcases ensureReversed_cases tree cwd root [] with ⟨heq, -⟩ | ⟨_, _, heq, -⟩
    · rw [heq] at h
      exact ensureOne_isSystem (htext hnull) (settle_eq_some h)
    · cases heq
  | cons last outer ih =>
    rcases ensureReversed_cases tree cwd root (last :: outer) with ⟨heq, -⟩ | ⟨_, _, ⟨⟩, heq⟩
    · rw [heq] at h
      exact ensureOne_isSystem (htext hnull) (settle_eq_some h)
    · rw [heq, Outcome.andThen] at h
      split at h
      · exact ensureOne_isSystem (htext hnull) (settle_eq_some h)
      · exact ih (fun name hname => hnull name (List.mem_cons_of_mem last hname)) h

lemma write_isSystem {content : String} (hnull : '\x00' ∉ path.text.toList)
    (h : tree.write cwd path content = .error fault) : fault.IsSystem := by
  rw [write] at h
  cases hlocate : tree.locate cwd path with
  | error f =>
    rw [hlocate] at h
    cases h
    exact locate_isSystem hnull hlocate
  | ok location =>
    rw [hlocate, ok_bind] at h
    split at h
    · exact ⟨_, _, (Except.error.inj h).symm⟩
    · cases h

lemma apply_isSystem (hnull : ∀ name ∈ change.path.segments, '\x00' ∉ name.toList)
    (h : (tree.apply cwd change).fault = some fault) : fault.IsSystem := by
  cases change with
  | directory path =>
    exact ensureReversed_isSystem (fun name hname => hnull name (List.mem_reverse.mp hname)) h
  | file path content =>
    exact write_isSystem ((Path.notMem_text (by decide) (by decide)).mpr hnull) (settle_eq_some h)

lemma apply_file_of_fault {content : String} (h : (tree.apply cwd (.file path content)).fault = some fault) :
    (tree.apply cwd (.file path content)).tree = tree := by
  have hwrite : tree.write cwd path content = .error fault := settle_eq_some h
  rw [apply, hwrite]
  rfl

def Change.Kept (tree : FileTree) (cwd : Location) (made : List Change) : Change → Prop
  | directory path => tree.entryAt cwd path = .ok .directory
  | file path _ => ∃ other content, file other content ∈ made ∧ other.resolve cwd = path.resolve cwd ∧
      tree.entryAt cwd path = .ok (.file content.toUTF8)

lemma kept_self {made : List Change} (h : (tree.apply cwd change).fault = none) (hmem : change ∈ made) :
    change.Kept (tree.apply cwd change).tree cwd made := by
  have hentry := entryAt_apply h
  cases change with
  | directory path => exact hentry
  | file path content => exact ⟨path, content, hmem, rfl, hentry⟩

lemma kept_apply {made more : List Change} {earlier : Change} (h : earlier.Kept tree cwd made)
    (hsub : made ⊆ more) (hmem : (tree.apply cwd change).fault = none → change ∈ more) :
    earlier.Kept (tree.apply cwd change).tree cwd more := by
  have heffect := effect_apply tree cwd change
  cases earlier with
  | directory path => exact directory_of_grows heffect.grows h
  | file path written =>
    obtain ⟨other, content, hmade, hplace, hentry⟩ := h
    obtain ⟨hlocate, hfile⟩ := entryAt_eq_ok.mp hentry
    have hlocate' := locate_of_grows heffect.grows hlocate
    rcases heffect (path.resolve cwd) with hsame | ⟨hcovers, hfollows, hnew⟩
    · exact ⟨other, content, hsub hmade, hplace, entryAt_eq_ok.mpr ⟨hlocate', hsame.trans hfile⟩⟩
    · -- a directory never takes the place of a file
      cases change with
      | directory path' =>
        rw [hfile] at hfollows
        cases hfollows
      | file path' content' =>
        cases hfault : (tree.apply cwd (.file path' content')).fault with
        | none =>
          exact ⟨path', content', hmem hfault, hcovers.symm, entryAt_eq_ok.mpr ⟨hlocate', hnew⟩⟩
        | some fault =>
          rw [apply_file_of_fault hfault]
          exact ⟨other, content, hsub hmade, hplace, hentry⟩

end ApiScaffold.FileTree
