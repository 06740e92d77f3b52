import ApiScaffold.Data.Basic
import ApiScaffold.Numeric.Digits
import ApiScaffold.Text.Quoted

namespace ApiScaffold.Data

def displaySpelling : Binary64.Spelling := ⟨"nan", "inf"⟩

mutual

def inspect : Data → String
  | null => "None"
  | bool true => "True"
  | bool false => "False"
  | int n => toString n
  | float x => x.text displaySpelling
  | string s => Text.quoted s
  | list items => "[" ++ ", ".intercalate (inspectItems items) ++ "]"
  | map entries => "\x7b" ++ ", ".intercalate (inspectEntries entries) ++ "\x7d"

def inspectItems : List Data → List String
  | [] => []
  | item :: rest => inspect item :: inspectItems rest

def inspectEntries : List (String × Data) → List String
  | [] => []
  | (key, value) :: rest => (Text.quoted key ++ ": " ++ inspect value) :: inspectEntries rest

end

def display : Data → String
  | string s => s
  | v => inspect v

@[simp] theorem display_string (s : String) : display (string s) = s := rfl

mutual

def hasText : Data → Bool
  | int n => (Nat.toDigits 10 n.natAbs).length ≤ maxDigits
  | list items => itemsHaveText items
  | map entries => entriesHaveText entries
  | _ => true

def itemsHaveText : List Data → Bool
  | [] => true
  | item :: rest => hasText item && itemsHaveText rest

def entriesHaveText : List (String × Data) → Bool
  | [] => true
  | (_, value) :: rest => hasText value && entriesHaveText rest

end

def text? (v : Data) : Option String := if v.hasText then some v.display else none

structure MissingKey where
  key : String

def MissingKey.message (e : MissingKey) : String := Text.quoted e.key

def at? (key : String) (v : Data) : Except MissingKey Data :=
  match v.get? key with
  | some value => .ok value
  | none => .error ⟨key⟩

end ApiScaffold.Data
