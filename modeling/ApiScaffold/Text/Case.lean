import ApiScaffold.Text.CaseTable
import ApiScaffold.Text.Class
import ApiScaffold.Text.SigmaTable

namespace ApiScaffold.Text

def mapCase (runs : List (Nat × Nat × Nat × Int)) (expansions : List (Nat × List Nat)) (c : Char) :
    List Char :=
  let n := c.toNat
  match expansions.find? (·.1 == n) with
  | some (_, image) => image.map Char.ofNat
  | none =>
    match runs.find? fun (first, last, step, _) => first ≤ n && n ≤ last && (n - first) % step == 0 with
    | some (_, _, _, shift) => [Char.ofNat (n + shift).toNat]
    | none => [c]

def upper (c : Char) : List Char := mapCase upperRuns upperExpansions c

def capitalize (s : String) : String :=
  match s.toList with
  | [] => ""
  | c :: rest => String.ofList (upper c ++ rest)

@[simp] theorem capitalize_empty : capitalize "" = "" := rfl

theorem toList_capitalize_of_toList_eq_cons {s : String} {c : Char} {rest : List Char}
    (h : s.toList = c :: rest) : (capitalize s).toList = upper c ++ rest := by
  simp [capitalize, h]

def isCased (c : Char) : Bool := inRanges casedRanges c.toNat

def isSkipped (c : Char) : Bool := inRanges skippedRanges c.toNat

/-- A capital sigma ends a word if a cased letter stands before it and none after it. -/
def endsWord (before after : List Char) : Bool :=
  (before.find? (!isSkipped ·)).any isCased && !(after.find? (!isSkipped ·)).any isCased

def lowerFrom (before : List Char) : List Char → List Char
  | [] => []
  | c :: rest =>
    let image :=
      if c = 'Σ' then [if endsWord before rest then 'ς' else 'σ']
      else mapCase lowerRuns lowerExpansions c
    image ++ lowerFrom (c :: before) rest

def lower (s : String) : String := String.ofList (lowerFrom [] s.toList)

end ApiScaffold.Text
