import ApiScaffold.Assoc
import ApiScaffold.Numeric.Shortest

namespace ApiScaffold

inductive Data where
  | null
  | bool (b : Bool)
  | int (n : Int)
  | float (x : Binary64)
  | string (s : String)
  | list (items : List Data)
  | map (entries : List (String × Data))

namespace Data

instance : Inhabited Data := ⟨null⟩

def strings (items : List String) : Data := list (items.map string)

def get? (key : String) : Data → Option Data
  | map entries => Assoc.get? key entries
  | _ => none

def truthy : Data → Bool
  | null => false
  | bool b => b
  | int n => n != 0
  | float x => !x.isZero
  | string s => s != ""
  | list items => !items.isEmpty
  | map entries => !entries.isEmpty

end Data

end ApiScaffold
