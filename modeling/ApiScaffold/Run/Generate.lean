import ApiScaffold.Console.Told
import ApiScaffold.Package.Changes
import ApiScaffold.Run.Report

/-!
A whole run: announce it, build the packages, write them, and sum up. Nothing is written before all
packages are built. All packages are written before the first fault, in their order, ends the run.
-/

namespace ApiScaffold.Run

open Console (Message Painter Told)

inductive Fault where
  | nullByte
  | markup (fault : Console.MarkupFault)
  | build (fault : BuildFault)
  | write (package : String) (fault : FileTree.Fault)
  | clockRanBack
  | duration (fault : Duration.Fault)

def Fault.ofWriting (package : String) : FileTree.Fault → Fault
  | .nullByte => .nullByte
  | fault => .write package fault

def Fault.message : Fault → String
  | .nullByte => FileTree.Fault.nullByte.message
  | .markup fault => fault.message
  | .build (.duplicate e) => e.message
  | .build (.template fault) => fault.message
  | .write package fault => "Package " ++ package ++ ": " ++ fault.message
  | .clockRanBack => "1 validation error for GenerationResult"
  | .duration fault => fault.message

def say [Painter] (columns : Nat) (messages : List Message) : Told Fault Unit :=
  (Told.say columns messages).mapFault .markup

def locate (cwd : Location) (path : Path) : Except Fault Location :=
  if path.text.contains '\x00' then .error .nullByte else .ok (path.resolve cwd)

def prepare [Painter] (columns : Nat) (cwd : Location) (config : Config) (selection : Selection) :
    Told Fault (List ArtifactSet) := do
  say columns opening
  let outputDir ← .ofResult (locate cwd config.outputDir)
  say columns (intention config selection outputDir)
  .ofResult ((build config selection).mapError .build)

def settle [Painter] (columns : Nat) (s : ArtifactSet) : Option FileTree.Fault → Told Fault Unit
  | some fault => .ofResult (.error (.ofWriting s.package fault))
  | none => say columns [packageMessage s]

def settleAll [Painter] (columns : Nat) (sets : List ArtifactSet) (faults : List (Option FileTree.Fault)) :
    Told Fault Unit :=
  let told := sets.zipWith (settle columns) faults
  ⟨String.join (told.map Told.text), told.forM Told.result⟩

def report (outputDir : Path) (sets : List ArtifactSet) (elapsed : Binary64) : Except Fault Report :=
  if elapsed.isNegative then .error .clockRanBack
  else .ok ⟨sets.map ArtifactSet.package, sets.flatMap (·.targets outputDir), elapsed⟩

def conclude [Painter] (columns : Nat) (config : Config) (sets : List ArtifactSet)
    (faults : List (Option FileTree.Fault)) (elapsed : Binary64) : Told Fault Report := do
  settleAll columns sets faults
  let r ← .ofResult (report config.outputDir sets elapsed)
  say columns [.blank]
  let duration ← .ofResult ((Duration.text (.real elapsed)).mapError .duration)
  say columns (summary config r duration)
  return r

def run [Painter] (tree : FileTree) (cwd : Location) (columns : Nat) (config : Config) (selection : Selection)
    (elapsed : Binary64) : FileTree × Told Fault Report :=
  let prepared := prepare columns cwd config selection
  match prepared.result with
  | .error fault => (tree, ⟨prepared.text, .error fault⟩)
  | .ok sets =>
    let (tree, faults) := ArtifactSet.writeAll tree cwd config.outputDir sets
    let concluded := conclude columns config sets faults elapsed
    (tree, ⟨prepared.text ++ concluded.text, concluded.result⟩)

end ApiScaffold.Run
