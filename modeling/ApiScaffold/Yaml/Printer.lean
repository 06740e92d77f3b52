import ApiScaffold.Data.Basic
import ApiScaffold.Yaml.Scalar

/-!
YAML text of data in block style, in the order of the keys. Empty collections are written in flow
style. A sequence under a key is not indented further than the key.
-/

namespace ApiScaffold.Yaml

def spelling : Binary64.Spelling := ⟨".nan", ".inf"⟩

def floatText (x : Binary64) : List Char :=
  let s := (x.text spelling).toList
  if '.' ∈ s then s else s.flatMap fun c => if c = 'e' then ".0e".toList else [c]

/-- Where a node is written. The column is that of the next character. -/
inductive Place where
  | start
  | afterMark (indent : Nat)
  | afterKey (indent column : Nat)

namespace Place

def lead : Place → List Char
  | start => []
  | _ => [' ']

def spot : Place → Spot
  | start => ⟨true, 2, 0⟩
  | afterMark indent => ⟨true, indent + 2, indent + 2⟩
  | afterKey indent column => ⟨true, indent + 2, column + 1⟩

def listIndent : Place → Nat
  | start => 0
  | afterMark indent => indent + 2
  | afterKey indent _ => indent

def mapIndent : Place → Nat
  | start => 0
  | afterMark indent | afterKey indent _ => indent + 2

def opening (indent : Nat) : Place → List Char
  | start => []
  | afterMark _ => [' ']
  | afterKey .. => newline indent

end Place

def writeKeyString (place : Place) (s : String) : List Char :=
  place.lead ++ writeString false place.spot s.toList

mutual

def node (place : Place) : Data → List Char
  | .null => place.lead ++ "null".toList
  | .bool true => place.lead ++ "true".toList
  | .bool false => place.lead ++ "false".toList
  | .int n => place.lead ++ (toString n).toList
  | .float x => place.lead ++ floatText x
  | .string s => writeKeyString place s
  | .list xs =>
    if xs.isEmpty then place.lead ++ ['[', ']']
    else items (place.opening place.listIndent) place.listIndent xs
  | .map es =>
    if es.isEmpty then place.lead ++ ['\x7b', '\x7d']
    else entries (place.opening place.mapIndent) place.mapIndent es

def items (opening : List Char) (indent : Nat) : List Data → List Char
  | [] => []
  | x :: rest => opening ++ '-' :: node (.afterMark indent) x ++ items (newline indent) indent rest

def entries (opening : List Char) (indent : Nat) : List (String × Data) → List Char
  | [] => []
  | (key, value) :: rest =>
    let text :=
      if isSimpleKey key.toList then
        let keyText := writeString true ⟨false, indent + 2, indent⟩ key.toList
        keyText ++ ':' :: node (.afterKey indent (indent + keyText.length + 1)) value
      else
        '?' :: writeKeyString (.afterMark indent) key ++ newline indent ++ ':' ::
          node (.afterMark indent) value
    opening ++ text ++ entries (newline indent) indent rest

end

def leavesOpen : Data → Bool
  | .string s => style false s.toList = .plain
  | .list _ | .map _ => false
  | _ => true

def dump (value : Data) : String :=
  String.ofList (node .start value ++ '\n' :: if leavesOpen value then "...\n".toList else [])

end ApiScaffold.Yaml
