import ApiScaffold.Data.Basic
import ApiScaffold.Json.Quoted

namespace ApiScaffold.Json

def spelling : Binary64.Spelling := ⟨"NaN", "Infinity"⟩

def newline (depth : Nat) : List Char := '\n' :: List.replicate (2 * depth) ' '

mutual

def print (depth : Nat) : Data → List Char
  | .null => "null".toList
  | .bool true => "true".toList
  | .bool false => "false".toList
  | .int n => (toString n).toList
  | .float x => (x.text spelling).toList
  | .string s => quote s
  | .list items =>
    if items.isEmpty then ['[', ']']
    else '[' :: printItems true (depth + 1) items ++ newline depth ++ [']']
  | .map entries =>
    if entries.isEmpty then ['\x7b', '\x7d']
    else '\x7b' :: printEntries true (depth + 1) entries ++ newline depth ++ ['\x7d']

def printItems (first : Bool) (depth : Nat) : List Data → List Char
  | [] => []
  | item :: rest =>
    (if first then [] else [',']) ++ newline depth ++ print depth item ++ printItems false depth rest

def printEntries (first : Bool) (depth : Nat) : List (String × Data) → List Char
  | [] => []
  | (key, value) :: rest =>
    (if first then [] else [',']) ++ newline depth ++ quote key ++ [':', ' '] ++ print depth value
      ++ printEntries false depth rest

end

def dump (value : Data) : String := String.ofList (print 0 value ++ ['\n'])

end ApiScaffold.Json
