import ApiScaffold.Config.Validate
import ApiScaffold.Text.Class

namespace ApiScaffold.Config

def listItems (s : String) : List String :=
  (((Text.splitAt ',' s.toList).map Text.strip).filter (· != [])).map String.ofList

abbrev Environment := List (String × String)

def setting? (name : String) (env : Environment) : Option String :=
  (Assoc.get? ("BRIDGEGEN_" ++ name) env).filter (· != "")

def entry (key : String) (value : Option Data) : List (String × Data) := (value.map (key, ·)).toList

def ofEnvironment (env : Environment) : Except Fault Config :=
  let items (name : String) := (setting? name env).map fun s => Data.strings (listItems s)
  let string (name : String) := (setting? name env).map Data.string
  let contracts := entry "format" (string "CONTRACT_FORMAT") ++ entry "version" (string "CONTRACT_VERSION")
  ofEntries (entry "domains" (items "DOMAINS") ++ entry "adapters" (items "ADAPTERS")
    ++ [("contracts", .map contracts)] ++ entry "outputDir" (string "OUTPUT_DIR"))

end ApiScaffold.Config
