import ApiScaffold.Config.Validate
import ApiScaffold.FileTree.Change
import ApiScaffold.Json.Printer
import ApiScaffold.Json.Reader
import ApiScaffold.Text.Utf8

namespace ApiScaffold.Config

inductive LoadFault where
  | file (fault : FileTree.Fault)
  | encoding (fault : Utf8.Fault)
  | digits (count : Nat)
  | notJson (path : Path) (detail : String)
  | notObject (path : Path)
  | invalid (fault : Fault)

inductive SaveFault where
  | file (fault : FileTree.Fault)
  | alreadyThere (path : Path)

def LoadFault.message : LoadFault → String
  | .file fault => fault.message
  | .encoding fault => fault.message
  | .digits count => tooManyDigitsMessage count
  | .notJson path detail => path.text ++ " is not valid JSON: " ++ detail
  | .notObject path => path.text ++ " must contain a JSON object"
  | .invalid fault => fault.message

def SaveFault.message : SaveFault → String
  | .file fault => fault.message
  | .alreadyThere path => path.text ++ " already exists. Use --force to overwrite."

def fileName : String := "corebridge.config.json"

def toText (c : Config) : String := Json.dump c.toData

def ofBytes (path : Path) (content : ByteArray) : Except LoadFault Config := do
  let text ← (Utf8.decode content).mapError .encoding
  let s := Utf8.unifyLines text.toList
  match Json.parse s with
  | .error ⟨.tooManyDigits count, _⟩ => .error (.digits count)
  | .error failure => .error (.notJson path (failure.message s))
  | .ok (.map entries) => (ofEntries entries).mapError .invalid
  | .ok _ => .error (.notObject path)

def load (tree : FileTree) (cwd : Location) (path : Path) : Except LoadFault Config := do
  if ← (tree.exists? cwd path).mapError .file then
    ofBytes path (← (tree.read cwd path).mapError .file)
  else return default

def saving (c : Config) (path : Path) : List FileTree.Change := [.directory path.parent, .file path c.toText]

def save (tree : FileTree) (cwd : Location) (path : Path) (c : Config) : FileTree.Outcome :=
  tree.applyAll cwd (c.saving path)

def initializing (path : Path) (force : Bool) (present : Except FileTree.Fault Bool) :
    Except SaveFault (List FileTree.Change) := do
  if (← present.mapError .file) && !force then .error (.alreadyThere path) else .ok (default.saving path)

def init (tree : FileTree) (cwd : Location) (path : Path) (force : Bool) : FileTree × Option SaveFault :=
  match initializing path force (tree.exists? cwd path) with
  | .ok changes => let o := tree.applyAll cwd changes; (o.tree, o.fault.map .file)
  | .error fault => (tree, some fault)

end ApiScaffold.Config
