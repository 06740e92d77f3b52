import ApiScaffold.Command.Basic
import ApiScaffold.Run.Generate

namespace ApiScaffold.Command

open Console (Message Painter Told)

inductive Fault where
  | save (fault : Config.SaveFault)
  | load (fault : Config.LoadFault)
  | run (fault : Run.Fault)
  | markup (fault : Console.MarkupFault)

def Fault.message : Fault → String
  | .save fault => fault.message
  | .load fault => fault.message
  | .run fault => fault.message
  | .markup fault => fault.message

def isSystem : FileTree.Fault → Bool
  | .system .. => true
  | .nullByte => false

def Fault.isReported : Fault → Bool
  | .markup _ => false
  | .save (.file fault) => isSystem fault
  | .save (.alreadyThere _) => true
  | .load (.file fault) => isSystem fault
  | .load (.encoding _) | .load (.digits _) => false
  | .load (.notJson ..) | .load (.notObject _) | .load (.invalid _) => true
  | .run (.build (.duplicate _)) | .run (.write ..) => true
  | .run _ => false

def say [Painter] (columns : Nat) (messages : List Message) : Told Fault Unit :=
  (Told.say columns messages).mapFault .markup

def withOutput (c : Config) (output : Option String) : Config :=
  match output with
  | none | some "" => c
  | some s => { c with outputDir := .ofString s }

def created (path : Path) : List Message := [
  .success ("Created " ++ path.text),
  .plain "Edit the domains and adapters, then run [bold]bridgegen generate[/bold]."]

def generated (r : Run.Report) : List Message := [
  .success ("Generated " ++ toString r.packages.length ++ " package(s).")]

def execute [Painter] (tree : FileTree) (cwd : Location) (columns : Nat) (elapsed : Binary64) :
    Command → FileTree × Told Fault Unit
  | .init config force =>
    let path := Path.ofString config
    match Config.init tree cwd path force with
    | (tree, some fault) => (tree, .ofResult (.error (.save fault)))
    | (tree, none) => (tree, say columns (created path))
  | .generate config output selection =>
    match Config.load tree cwd (.ofString config) with
    | .error fault => (tree, .ofResult (.error (.load fault)))
    | .ok c =>
      let (tree, told) := Run.run tree cwd columns (withOutput c output) selection elapsed
      (tree, told.mapFault .run >>= fun r => say columns (generated r))

def finish [Painter] (columns : Nat) (told : Told Fault Unit) : Told Fault Nat :=
  match told.result with
  | .ok () => ⟨told.text, .ok 0⟩
  | .error fault =>
    if fault.isReported then do
      ⟨told.text, .ok ()⟩
      say columns [.error ("Error: " ++ fault.message)]
      return 1
    else ⟨told.text, .error fault⟩

end ApiScaffold.Command
