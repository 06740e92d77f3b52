import ApiScaffold.Data.Display
import ApiScaffold.Template.Render

namespace ApiScaffold

structure Artifact where
  path : String
  content : String
  deriving DecidableEq

structure ArtifactSet where
  package : String
  artifacts : List Artifact
  deriving DecidableEq

namespace ArtifactSet

structure DuplicatePath where
  package : String
  path : String
  deriving DecidableEq

def DuplicatePath.message (e : DuplicatePath) : String :=
  "Package " ++ e.package ++ ": duplicate artifact path " ++ Text.quoted e.path

def empty (package : String) : ArtifactSet := ⟨package, []⟩

def paths (s : ArtifactSet) : List String := s.artifacts.map Artifact.path

def size (s : ArtifactSet) : Nat := s.artifacts.length

def contains (s : ArtifactSet) (path : String) : Bool := s.artifacts.any (·.path == path)

def add (s : ArtifactSet) (path content : String) : Except DuplicatePath ArtifactSet :=
  if s.contains path then .error ⟨s.package, path⟩
  else .ok { s with artifacts := s.artifacts ++ [⟨path, content⟩] }

def get (s : ArtifactSet) (path : String) : Except Data.MissingKey String :=
  match s.artifacts.find? (·.path == path) with
  | some artifact => .ok artifact.content
  | none => .error ⟨path⟩

theorem contains_iff {s : ArtifactSet} {path : String} : s.contains path ↔ path ∈ s.paths := by
  simp [contains, paths]

end ArtifactSet

inductive BuildFault where
  | duplicate (e : ArtifactSet.DuplicatePath)
  | template (fault : Template.Fault)

structure Draft where
  path : String
  content : Except Template.Fault String

namespace Draft

def text (path content : String) : Draft := ⟨path, .ok content⟩

def ofTemplate (path : String) (template : Template) (context : List (String × Data)) : Draft :=
  ⟨path, template.render context⟩

end Draft

namespace ArtifactSet

def addDraft (s : ArtifactSet) (d : Draft) : Except BuildFault ArtifactSet := do
  let content ← d.content.mapError .template
  (s.add d.path content).mapError .duplicate

def ofDrafts (package : String) (drafts : List Draft) : Except BuildFault ArtifactSet :=
  drafts.foldlM addDraft (empty package)

end ArtifactSet

end ApiScaffold
