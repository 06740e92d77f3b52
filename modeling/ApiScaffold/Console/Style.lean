import ApiScaffold.Console.ColorTable
import ApiScaffold.Numeric.Digits
import ApiScaffold.Text.Case
import ApiScaffold.Text.Split

/-!
Style names in a normal form, so that a tag can be closed under another spelling: attributes in a
fixed order, then the colors and a link. What is no style is kept in lower case.
-/

namespace ApiScaffold.Console

inductive NumberFault where
  | missing
  | tooManyDigits (count : Nat)

def NumberFault.message : NumberFault → String
  | .missing => "invalid literal for int() with base 10: ''"
  | .tooManyDigits count => tooManyDigitsMessage count

namespace Style

def attributes : List String := [
  "bold", "dim", "italic", "underline", "blink", "blink2", "reverse", "conceal", "strike",
  "underline2", "frame", "encircle", "overline"]

def abbreviations : List (String × String) := [
  ("b", "bold"), ("d", "dim"), ("i", "italic"), ("u", "underline"), ("r", "reverse"), ("c", "conceal"),
  ("s", "strike"), ("uu", "underline2"), ("o", "overline")]

def attribute? (word : String) : Option String :=
  match abbreviations.find? (·.1 == word) with
  | some (_, name) => some name
  | none => if attributes.contains word then some word else none

def isNamedColor (word : String) : Bool :=
  word == "default" || baseColors.contains word || (baseColors.map ("bright_" ++ ·)).contains word ||
    paletteColors.contains word

def inside? (opening : String) (word : List Char) : Option (List Char) :=
  if opening.toList.isPrefixOf word ∧ word.getLast? = some ')' then some (word.drop opening.length).dropLast
    else none

def isHexDigit (c : Char) : Bool := c.isDigit || ('a' ≤ c && c ≤ 'f')

def isPaletteNumber (s : List Char) : Bool :=
  s != [] && s.all Char.isDigit && s.length ≤ 3 && digitsValue s ≤ 255

def decimalValue (c : Char) : Nat :=
  match Text.decimalRanges.find? fun (first, last) => first ≤ c.toNat && c.toNat ≤ last with
  | some (first, _) => (c.toNat - first) % 10
  | none => 0

def component (digits : List Char) : Except NumberFault Nat :=
  if digits = [] then .error .missing
  else if maxDigits < digits.length then .error (.tooManyDigits digits.length)
  else .ok (digits.foldl (fun n c => 10 * n + decimalValue c) 0)

/-- Whether three numbers are a color. They are read before any of them is looked at. -/
def areComponents (s : List Char) : Except NumberFault Bool := do
  if s = [] ∨ s.any fun c => !(Text.isDecimal c || c = ',') then return false
  match Text.splitAt ',' s with
  | [red, green, blue] =>
    let red ← component red
    let green ← component green
    let blue ← component blue
    return red ≤ 255 && green ≤ 255 && blue ≤ 255
  | _ => return false

def isColor (word : String) : Except NumberFault Bool :=
  if isNamedColor word then .ok true
  else
    match word.toList with
    | '#' :: digits => .ok (digits.length = 6 && digits.all isHexDigit)
    | s =>
      match inside? "color(" s, inside? "rgb(" s with
      | some number, _ => .ok (isPaletteNumber number)
      | none, some components => areComponents components
      | none, none => .ok false

structure Draft where
  switches : List (String × Bool) := []
  color : Option String := none
  background : Option String := none
  link : Option String := none

def lowercase (word : List Char) : String := String.ofList (Text.lowerFrom [] word)

inductive Fault where
  | unknown
  | number (fault : NumberFault)

def colorOf (word : List Char) : Except Fault String := do
  let word := lowercase word
  if ← (isColor word).mapError .number then return word else .error .unknown

def Draft.add (draft : Draft) (word : List Char) : Except Fault Draft :=
  match attribute? (lowercase word) with
  | some a => .ok { draft with switches := (a, true) :: draft.switches }
  | none => return { draft with color := some (← colorOf word) }

def Draft.addPair (draft : Draft) (word next : List Char) : Except Fault Draft :=
  match lowercase word with
  | "on" => return { draft with background := some (← colorOf next) }
  | "not" =>
    match attribute? (String.ofList next) with
    | some a => .ok { draft with switches := (a, false) :: draft.switches }
    | none => .error .unknown
  | _ => .ok { draft with link := some (String.ofList next) }

def needsNext (word : List Char) : Bool := ["on", "not", "link"].contains (lowercase word)

def read (draft : Draft) : List (List Char) → Except Fault Draft
  | [] => .ok draft
  | word :: rest =>
    if needsNext word then
      match rest with
      | next :: rest => do read (← draft.addPair word next) rest
      | [] => .error .unknown
    else do read (← draft.add word) rest

def Draft.words (draft : Draft) : List String :=
  (attributes.filterMap fun a =>
    (draft.switches.find? (·.1 == a)).map fun (_, on) => if on then a else "not " ++ a)
  ++ draft.color.toList ++ (draft.background.map ("on " ++ ·)).toList ++
    (draft.link.map ("link " ++ ·)).toList

def splitWords (s : List Char) : List (List Char) :=
  (s.splitBy fun c d => Text.isBlank c == Text.isBlank d).filter fun w => !w.head?.any Text.isBlank

def normalize (s : List Char) : Except NumberFault String :=
  match splitWords s with
  | [] => .ok "none"
  | words =>
    if Text.strip s = "none".toList then .ok "none"
    else
      match read {} words with
      | .ok draft => .ok (" ".intercalate draft.words)
      | .error .unknown => .ok (lowercase (Text.strip s))
      | .error (.number fault) => .error fault

end Style

end ApiScaffold.Console
