import ApiScaffold.Package.Changes
import ApiScaffold.Proofs.FileTree.Between
import Mathlib.Logic.Relation

/-!
Packages that are written at the same time. Each makes its changes one after another and stops at its
first fault; which of them makes the next change is open. To write one after the other is one way.
-/

namespace ApiScaffold

open FileTree (Change Grows)
open Relation (ReflTransGen)

namespace ArtifactSet

def target (s : ArtifactSet) (outputDir : Path) (a : Artifact) : Path := (s.root outputDir).join a.path

variable {s : ArtifactSet} {outputDir : Path} {change : Change}

lemma mem_changes : change ∈ s.changes outputDir ↔ change = .directory (s.root outputDir) ∨ ∃ a ∈ s.artifacts,
    change = .directory (s.target outputDir a).parent ∨ change = .file (s.target outputDir a) a.content := by
  simp [changes, target]

lemma file_mem_changes {a : Artifact} (ha : a ∈ s.artifacts) :
    .file (s.target outputDir a) a.content ∈ s.changes outputDir :=
  mem_changes.mpr (.inr ⟨a, ha, .inr rfl⟩)

lemma parent_mem {made left : List Change} {path : Path} {content : String}
    (h : made ++ .file path content :: left = s.changes outputDir) : .directory path.parent ∈ made := by
  have hpairs : ∀ (artifacts : List Artifact) (made : List Change), made ++ .file path content :: left =
      artifacts.flatMap
        (fun a => [.directory (s.target outputDir a).parent, .file (s.target outputDir a) a.content]) →
      .directory path.parent ∈ made := by
    intro artifacts
    induction artifacts with
    | nil => simp
    | cons a rest ih =>
      intro made hmade
      rcases made with _ | ⟨first, _ | ⟨second, made⟩⟩
      · simp at hmade
      · simp only [List.flatMap_cons, List.cons_append, List.nil_append, List.cons.injEq,
          Change.file.injEq] at hmade
        simp [hmade.1, hmade.2.1.1]
      · simp only [List.flatMap_cons, List.cons_append, List.nil_append, List.cons.injEq] at hmade
        exact List.mem_cons_of_mem _ (List.mem_cons_of_mem _ (ih made hmade.2.2))
  rw [changes] at h
  cases made with
  | nil => simp at h
  | cons first made =>
    rw [List.cons_append, List.cons.injEq] at h
    exact List.mem_cons_of_mem _ (hpairs _ made h.2)

end ArtifactSet

structure Writer where
  set : ArtifactSet
  made : List Change
  left : List Change
  fault : Option FileTree.Fault

namespace Writer

def after (set : ArtifactSet) (made left : List Change) (change : Change) : Option FileTree.Fault → Writer
  | none => ⟨set, made ++ [change], left, none⟩
  | some fault => ⟨set, made, change :: left, some fault⟩

variable (set : ArtifactSet) (made left : List Change) (change : Change) (fault : Option FileTree.Fault)

@[simp] lemma set_after : (after set made left change fault).set = set := by
  cases fault <;> rfl

@[simp] lemma fault_after : (after set made left change fault).fault = fault := by
  cases fault <;> rfl

lemma changes_after : (after set made left change fault).made ++ (after set made left change fault).left =
    made ++ change :: left := by
  cases fault <;> simp [after]

lemma mem_made_after {c : Change} :
    c ∈ (after set made left change fault).made ↔ c ∈ made ∨ c = change ∧ fault = none := by
  cases fault <;> simp [after]

end Writer

structure Writing where
  tree : FileTree
  writers : List Writer

namespace Writing

def start (tree : FileTree) (outputDir : Path) (sets : List ArtifactSet) : Writing :=
  ⟨tree, sets.map fun s => ⟨s, [], s.changes outputDir, none⟩⟩

/-- A package makes its next change. Where that is at fault, the change stays undone. -/
inductive Step (cwd : Location) : Writing → Writing → Prop
  | apply (tree : FileTree) (before after : List Writer) (set : ArtifactSet) (made left : List Change)
    (change : Change) :
      Step cwd ⟨tree, before ++ ⟨set, made, change :: left, none⟩ :: after⟩
        ⟨(tree.apply cwd change).tree,
          before ++ Writer.after set made left change (tree.apply cwd change).fault :: after⟩

def Finished (w : Writing) : Prop := ∀ writer ∈ w.writers, writer.left = [] ∨ writer.fault ≠ none

variable {cwd : Location} {tree : FileTree} {outputDir : Path} {sets : List ArtifactSet} {w next : Writing}

def made (w : Writing) : List Change := w.writers.flatMap Writer.made

/-- What holds at any time of packages that are written into `tree`. -/
structure Sound (cwd : Location) (tree : FileTree) (outputDir : Path) (sets : List ArtifactSet)
    (w : Writing) : Prop where
  sets_eq : w.writers.map Writer.set = sets
  changes_eq : ∀ writer ∈ w.writers, writer.made ++ writer.left = writer.set.changes outputDir
  stopped : ∀ writer ∈ w.writers, ∀ fault, writer.fault = some fault →
    ∃ tree, ∃ change ∈ writer.set.changes outputDir, (FileTree.apply tree cwd change).fault = some fault
  grows : Grows tree w.tree
  covered : ∀ location, w.tree.get? location = tree.get? location ∨
    ∃ s ∈ sets, ∃ change ∈ s.changes outputDir, change.Covers cwd location
  kept : ∀ writer ∈ w.writers, ∀ change ∈ writer.made, change.Kept w.tree cwd w.made

lemma sound_start (cwd : Location) (tree : FileTree) (outputDir : Path) (sets : List ArtifactSet) :
    Sound cwd tree outputDir sets (start tree outputDir sets) := by
  refine ⟨?_, ?_, ?_, .refl tree, fun _ => .inl rfl, ?_⟩ <;> simp [start, Function.comp_def]

lemma Sound.step (h : Sound cwd tree outputDir sets w) (hstep : Step cwd w next) :
    Sound cwd tree outputDir sets next := by
  obtain ⟨hsets, hchanges, hstopped, hgrows, hcovered, hkept⟩ := h
  cases hstep with
  | apply now before after set made left change =>
    have heffect := FileTree.effect_apply now cwd change
    have hset : set ∈ sets := hsets ▸ by simp
    simp only [List.forall_mem_append, List.forall_mem_cons] at hchanges hstopped hkept
    have hchange : change ∈ set.changes outputDir := hchanges.2.1 ▸ by simp
    refine ⟨by simpa using hsets, ?_, ?_, hgrows.trans heffect.grows, fun location => ?_, ?_⟩
    · simp only [List.forall_mem_append, List.forall_mem_cons, Writer.changes_after, Writer.set_after]
      exact hchanges
    · simp only [List.forall_mem_append, List.forall_mem_cons, Writer.fault_after, Writer.set_after]
      exact ⟨hstopped.1, fun fault hfault => ⟨now, change, hchange, hfault⟩, hstopped.2.2⟩
    · rcases heffect location with heq | ⟨hcovers, -, -⟩
      · rw [heq]
        exact hcovered location
      · exact .inr ⟨set, hset, change, hchange, hcovers⟩
    · -- what has been made is still there, or a file at the same place that was made just now
      have hmade (c : Change) : c ∈ Writing.made ⟨(now.apply cwd change).tree,
          before ++ Writer.after set made left change (now.apply cwd change).fault :: after⟩ ↔
          c ∈ Writing.made ⟨now, before ++ ⟨set, made, change :: left, none⟩ :: after⟩ ∨
            c = change ∧ (now.apply cwd change).fault = none := by
        simp only [Writing.made, List.flatMap_append, List.flatMap_cons, List.mem_append,
          Writer.mem_made_after]
        tauto
      have hkeep {earlier : Change} (h : earlier.Kept now cwd _) :
          earlier.Kept (now.apply cwd change).tree cwd _ :=
        FileTree.kept_apply h (fun c hc => (hmade c).mpr (.inl hc)) fun hnone =>
        (hmade change).mpr (.inr ⟨rfl, hnone⟩)
      simp only [List.forall_mem_append, List.forall_mem_cons]
      refine ⟨fun writer hw c hc => hkeep (hkept.1 writer hw c hc), fun c hc => ?_,
        fun writer hw c hc => hkeep (hkept.2.2 writer hw c hc)⟩
      rcases (Writer.mem_made_after ..).mp hc with hc | ⟨rfl, hnone⟩
      · exact hkeep (hkept.2.1 c hc)
      · exact FileTree.kept_self hnone ((hmade c).mpr (.inr ⟨rfl, hnone⟩))

lemma sound_of_steps (h : ReflTransGen (Step cwd) (start tree outputDir sets) w) :
    Sound cwd tree outputDir sets w := by
  induction h with
  | refl => exact sound_start cwd tree outputDir sets
  | tail _ hstep ih => exact ih.step hstep

end Writing

end ApiScaffold
