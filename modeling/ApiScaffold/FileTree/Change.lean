import ApiScaffold.FileTree.Basic

namespace ApiScaffold.FileTree

inductive Change where
  | directory (path : Path)
  | file (path : Path) (content : String)
  deriving DecidableEq

def apply (tree : FileTree) (cwd : Location) : Change → Outcome
  | .directory path => tree.ensureDirectory cwd path
  | .file path content => settle tree (tree.write cwd path content)

def applyAll (tree : FileTree) (cwd : Location) : List Change → Outcome
  | [] => ⟨tree, none⟩
  | change :: rest => (tree.apply cwd change).andThen fun tree => applyAll tree cwd rest

theorem applyAll_append (tree : FileTree) (cwd : Location) (first second : List Change) :
    tree.applyAll cwd (first ++ second) = (tree.applyAll cwd first).andThen (applyAll · cwd second) := by
  induction first generalizing tree with
  | nil => rfl
  | cons change rest ih =>
    simp only [List.cons_append, applyAll, Outcome.andThen]
    cases h : (tree.apply cwd change).fault with
    | none => exact ih _
    | some fault => simp [h]

end ApiScaffold.FileTree
