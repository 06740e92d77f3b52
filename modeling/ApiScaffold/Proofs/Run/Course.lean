import ApiScaffold.Proofs.Package.Order
import ApiScaffold.Proofs.Run.Report

/-!
Runs whose packages are written at the same time. Each course of such a run takes the changes and the
reports in an order of its own; to write one package after the other is one course.
-/

namespace ApiScaffold

open Chain
open Console (Message Told)
open Relation (ReflTransGen)
open Writing (Step start)

/-- A way to the end of writing the packages, and the order in which they report. -/
structure Course (tree : FileTree) (cwd : Location) (outputDir : Path) (sets : List ArtifactSet) where
  last : Writing
  steps : ReflTransGen (Step cwd) (start tree outputDir sets) last
  finished : last.Finished
  reported : List Writer
  perm : reported.Perm last.writers

lemma Course.sound {tree : FileTree} {cwd : Location} {outputDir : Path} {sets : List ArtifactSet}
    (course : Course tree cwd outputDir sets) : Writing.Sound cwd tree outputDir sets course.last :=
  Writing.sound_of_steps course.steps

namespace Run

variable {config : Config} {selection : Selection} {sets : List ArtifactSet} {tree : FileTree}
    {cwd : Location}
variable {columns : Nat} {writer : Writer} {fault : FileTree.Fault}

def settleWriter (columns : Nat) (writer : Writer) : Told Fault Unit := settle columns writer.set writer.fault

def settleCourse {outputDir : Path} (columns : Nat) (course : Course tree cwd outputDir sets) :
    Told Fault Unit :=
  ⟨String.join (course.reported.map fun writer => (settleWriter columns writer).text),
    course.last.writers.forM fun writer => (settleWriter columns writer).result⟩

def sumUp (columns : Nat) (config : Config) (sets : List ArtifactSet) (elapsed : Binary64) :
    Told Fault Report := do
  let r ← .ofResult (report config.outputDir sets elapsed)
  say columns [.blank]
  let duration ← .ofResult ((Duration.text (.real elapsed)).mapError .duration)
  say columns (summary config r duration)
  return r

def runAlong (columns : Nat) (config : Config) (selection : Selection) (elapsed : Binary64)
    (course : ∀ sets, Course tree cwd config.outputDir sets) : FileTree × Told Fault Report :=
  let prepared := prepare columns cwd config selection
  match prepared.result with
  | .error fault => (tree, ⟨prepared.text, .error fault⟩)
  | .ok sets =>
    let told := settleCourse columns (course sets) >>= fun _ => sumUp columns config sets elapsed
    ((course sets).last.tree, ⟨prepared.text ++ told.text, told.result⟩)

lemma conclude_eq (faults : List (Option FileTree.Fault)) (elapsed : Binary64) :
    conclude columns config sets faults elapsed =
      settleAll columns sets faults >>= fun _ => sumUp columns config sets elapsed := rfl

lemma settleAll_eq (columns : Nat) (writers : List Writer) :
    settleAll columns (writers.map Writer.set) (writers.map Writer.fault) =
      ⟨String.join (writers.map fun writer => (settleWriter columns writer).text),
        writers.forM fun writer => (settleWriter columns writer).result⟩ := by
  have htold : (writers.map Writer.set).zipWith (settle columns) (writers.map Writer.fault) =
      writers.map (settleWriter columns) := by
    rw [List.zipWith_map, List.zipWith_self]
    rfl
  rw [settleAll, htold, List.map_map, List.forM_eq_forM, List.forM_map]
  rfl

lemma exists_runAlong (tree : FileTree) (cwd : Location) (columns : Nat) (config : Config)
    (selection : Selection) (elapsed : Binary64) : ∃ course : ∀ sets, Course tree cwd config.outputDir sets,
      run tree cwd columns config selection elapsed = runAlong columns config selection elapsed course := by
  choose last hsteps hlast htree hfaults using fun sets =>
    Writing.steps_writeAll cwd config.outputDir sets tree
  refine ⟨fun sets => ⟨last sets, hsteps sets, hlast sets, (last sets).writers, .refl _⟩, ?_⟩
  rw [run, runAlong]
  cases (prepare columns cwd config selection).result with
  | error fault => rfl
  | ok sets =>
    have hsettled := settleAll_eq columns (last sets).writers
    rw [(Writing.sound_of_steps (hsteps sets)).sets_eq, hfaults] at hsettled
    simp only [conclude_eq, hsettled, htree]
    rfl

end Run

end ApiScaffold
