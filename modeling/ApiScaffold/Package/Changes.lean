import ApiScaffold.FileTree.Change
import ApiScaffold.Package.Artifact

/-!
Writing packages: each into a directory of its own below the output directory, its files in their
order. A package stops at its first fault; the other packages are written all the same.
-/

namespace ApiScaffold.ArtifactSet

open FileTree (Change)

def root (s : ArtifactSet) (outputDir : Path) : Path := outputDir.join s.package

def targets (s : ArtifactSet) (outputDir : Path) : List Path :=
  s.artifacts.map fun a => (s.root outputDir).join a.path

def changes (s : ArtifactSet) (outputDir : Path) : List Change :=
  .directory (s.root outputDir) :: s.artifacts.flatMap fun a =>
    let target := (s.root outputDir).join a.path
    [.directory target.parent, .file target a.content]

def write (s : ArtifactSet) (tree : FileTree) (cwd : Location) (outputDir : Path) : FileTree.Outcome :=
  tree.applyAll cwd (s.changes outputDir)

def writeAll (tree : FileTree) (cwd : Location) (outputDir : Path) :
    List ArtifactSet → FileTree × List (Option FileTree.Fault)
  | [] => (tree, [])
  | s :: rest =>
    let written := s.write tree cwd outputDir
    let (tree, faults) := writeAll written.tree cwd outputDir rest
    (tree, written.fault :: faults)

theorem length_targets (s : ArtifactSet) (outputDir : Path) : (s.targets outputDir).length = s.size := by
  simp [targets, size]

end ApiScaffold.ArtifactSet
