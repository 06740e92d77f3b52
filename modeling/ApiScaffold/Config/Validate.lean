import ApiScaffold.Config.Basic

/-!
Checking a configuration: each value is taken from the data if its key is present, else from the
defaults. A faulty contracts block hides all other faults.
-/

namespace ApiScaffold.Config

inductive Expected where
  | string
  | list
  | path
  | format
  deriving DecidableEq

structure Violation where
  expected : Expected
  field : String
  index : Option Nat
  deriving DecidableEq

inductive Fault where
  | contractsNotObject
  | contracts (violations : List Violation)
  | project (violations : List Violation)

def Expected.kind : Expected → String
  | .string => "string_type"
  | .list => "tuple_type"
  | .path => "path_type"
  | .format => "enum"

def Expected.message : Expected → String
  | .string => "Input should be a valid string"
  | .list => "Input should be a valid tuple"
  | .path => "Input is not a valid path for <class 'pathlib.Path'>"
  | .format => "Input should be 'openapi' or 'graphql'"

def violationsMessage (violations : List Violation) (model : String) : String :=
  "Invalid configuration: " ++ toString violations.length ++ " validation error"
    ++ (if violations.length = 1 then "" else "s") ++ " for " ++ model

def Fault.message : Fault → String
  | .contractsNotObject => "Invalid configuration: 'contracts' must be an object"
  | .contracts violations => violationsMessage violations "ContractsConfig"
  | .project violations => violationsMessage violations "ProjectConfig"

def Fault.violations : Fault → List Violation
  | .contractsNotObject => []
  | .contracts violations | .project violations => violations

abbrev Checked (α : Type) := Except (List Violation) α

def checkString (field : String) (index : Option Nat) : Data → Checked String
  | .string s => .ok s
  | _ => .error [⟨.string, field, index⟩]

def checkItems (field : String) (index : Nat) : List Data → Checked (List String)
  | [] => .ok []
  | item :: rest =>
    match checkString field (some index) item, checkItems field (index + 1) rest with
    | .ok s, .ok strings => .ok (s :: strings)
    | .error violations, .ok _ | .ok _, .error violations => .error violations
    | .error first, .error others => .error (first ++ others)

def checkStrings (field : String) : Data → Checked (List String)
  | .list items => checkItems field 0 items
  | _ => .error [⟨.list, field, none⟩]

def checkPath (field : String) : Data → Checked Path
  | .string s => .ok (.ofString s)
  | _ => .error [⟨.path, field, none⟩]

def checkFormat (field : String) (v : Data) : Checked ContractFormat :=
  match v with
  | .string s =>
    match ContractFormat.ofName? s with
    | some format => .ok format
    | none => .error [⟨.format, field, none⟩]
  | _ => .error [⟨.format, field, none⟩]

def orDefault {α : Type} (check : Data → Checked α) (fallback : α) : Option Data → Checked α
  | some v => check v
  | none => .ok fallback

def violationsOf {α : Type} : Checked α → List Violation
  | .ok _ => []
  | .error violations => violations

def contractsOf (entries : List (String × Data)) : Except Fault (ContractFormat × String) :=
  let format := orDefault (checkFormat "format") default.format (Assoc.get? "format" entries)
  let version := orDefault (checkString "version" none) default.version (Assoc.get? "version" entries)
  match format, version with
  | .ok format, .ok version => .ok (format, version)
  | _, _ => .error (.contracts (violationsOf format ++ violationsOf version))

def contractsEntries : Option Data → Except Fault (List (String × Data))
  | none => .ok []
  | some (.map entries) => .ok entries
  | some v => if v.truthy then .error .contractsNotObject else .ok []

def ofEntries (entries : List (String × Data)) : Except Fault Config := do
  let (format, version) ← contractsOf (← contractsEntries (Assoc.get? "contracts" entries))
  let directory := (Assoc.get? "outputDir" entries).or (Assoc.get? "output_dir" entries)
  let domains := orDefault (checkStrings "domains") default.domains (Assoc.get? "domains" entries)
  let adapters := orDefault (checkStrings "adapters") default.adapters (Assoc.get? "adapters" entries)
  let outputDir := orDefault (checkPath "output_dir") default.outputDir directory
  match domains, adapters, outputDir with
  | .ok domains, .ok adapters, .ok outputDir => .ok ⟨domains, adapters, format, version, outputDir⟩
  | _, _, _ => .error (.project (violationsOf domains ++ violationsOf adapters ++ violationsOf outputDir))

end ApiScaffold.Config
