import ApiScaffold.Text.Hex
import ApiScaffold.Yaml.Implicit

/-!
How a scalar is written: plain where nothing would be misread, else in single quotes, and in double
quotes where an escape is needed. Long scalars are folded at blanks past column eighty.
-/

namespace ApiScaffold.Yaml

inductive Style where
  | plain
  | single
  | double
  deriving DecidableEq

def isBreak (c : Char) : Bool := c = '\n' || c = '\u0085' || c = '\u2028' || c = '\u2029'

def isUnescaped (c : Char) : Bool :=
  let n := c.toNat
  c = '\n' || (0x20 ≤ n && n ≤ 0x7E) || n = 0x85
    || ((0xA0 ≤ n && n ≤ 0xFFFD || 0x10000 ≤ n && n < 0x10FFFF) && n != 0xFEFF)

def isEdge (c : Char) : Bool := c = ' ' || isBreak c

def endsAtBlank (rest : List Char) : Bool := rest.head?.all (· = ' ')

def startsWithIndicator (s : List Char) : Bool :=
  "---".toList.isPrefixOf s || "...".toList.isPrefixOf s ||
    match s with
    | c :: rest =>
      "#,[]\x7b\x7d&*!|>'\"%@\x60".toList.contains c || ("?:-".toList.contains c && endsAtBlank rest)
    | [] => false

def containsIndicator : List Char → Bool
  | ' ' :: '#' :: _ => true
  | ':' :: rest => endsAtBlank rest || containsIndicator rest
  | _ :: rest => containsIndicator rest
  | [] => false

def breakMeetsBlank : List Char → Bool
  | c :: d :: rest => (isBreak c && d = ' ') || (c = ' ' && isBreak d) || breakMeetsBlank (d :: rest)
  | _ => false

def isPlainSafe (s : List Char) : Bool :=
  s.all (fun c => isUnescaped c && !isBreak c) && !s.head?.any isEdge && !s.getLast?.any isEdge
    && !startsWithIndicator s && !containsIndicator s

def isSingleSafe (s : List Char) : Bool := s.all isUnescaped && !breakMeetsBlank s

def style (simpleKey : Bool) (s : List Char) : Style :=
  if !isImplicit s && isPlainSafe s then .plain
  else if isSingleSafe s && !(simpleKey && s.any isBreak) then .single
  else .double

/-- Keys beyond this length, five columns for the tag included, are marked by a question mark. -/
def maxSimpleKey : Nat := 128

def isSimpleKey (s : List Char) : Bool :=
  s.length + 5 < maxSimpleKey && !s.isEmpty && !s.any isBreak

def width : Nat := 80

def newline (indent : Nat) : List Char := '\n' :: List.replicate indent ' '

structure Spot where
  folds : Bool
  indent : Nat
  column : Nat

def runs (s : List Char) : List (List Char) :=
  s.splitBy fun c d => (c = ' ') == (d = ' ') && isBreak c == isBreak d

def foldsAt (spot : Spot) (run : List Char) : Bool := spot.folds && run == [' '] && width < spot.column

def writePlain (spot : Spot) : List (List Char) → List Char
  | [] => []
  | run :: rest =>
    if foldsAt spot run then newline spot.indent ++ writePlain { spot with column := spot.indent } rest
    else run ++ writePlain { spot with column := spot.column + run.length } rest

def doubleQuotes (run : List Char) : List Char := run.flatMap fun c => if c = '\'' then ['\'', '\''] else [c]

def writeSingle (first : Bool) (spot : Spot) : List (List Char) → List Char
  | [] => []
  | run :: rest =>
    if foldsAt spot run ∧ !first ∧ rest ≠ [] then
      newline spot.indent ++ writeSingle false { spot with column := spot.indent } rest
    else if run.any isBreak then
      (if run.head? = some '\n' then ['\n'] else []) ++ run ++ List.replicate spot.indent ' '
        ++ writeSingle false { spot with column := spot.indent } rest
    else
      let text := doubleQuotes run
      text ++ writeSingle false { spot with column := spot.column + text.length } rest

def escapeLetter? (c : Char) : Option Char :=
  ([(0, '0'), (7, 'a'), (8, 'b'), (9, 't'), (10, 'n'), (11, 'v'), (12, 'f'), (13, 'r'), (27, 'e'), (34, '"'),
    (92, '\\'), (0x85, 'N'), (0x2028, 'L'), (0x2029, 'P')].find? (·.1 == c.toNat)).map (·.2)

def isDoubleSafe (c : Char) : Bool :=
  let n := c.toNat
  (escapeLetter? c).isNone && ((0x20 ≤ n && n ≤ 0x7E) || (0xA0 ≤ n && n ≤ 0xFFFD && n != 0xFEFF))

def escape (c : Char) : List Char :=
  match escapeLetter? c with
  | some letter => ['\\', letter]
  | none =>
    if c.toNat ≤ 0xFF then '\\' :: 'x' :: Text.hexUpper 2 c.toNat
    else if c.toNat ≤ 0xFFFF then '\\' :: 'u' :: Text.hexUpper 4 c.toNat
    else '\\' :: 'U' :: Text.hexUpper 8 c.toNat

def escapedFold (indent : Nat) (next : Option Char) : List Char :=
  '\\' :: newline indent ++ if next = some ' ' then ['\\'] else []

/--
The inside of double quotes. `fresh` holds at the start, after an escape and after a fold: there a
fold needs no blank.
-/
def writeDouble (first fresh : Bool) (spot : Spot) : List Char → List Char
  | [] => []
  | c :: rest =>
    let mayFold := spot.folds && !first && !rest.isEmpty
    if isDoubleSafe c then
      if mayFold && (c = ' ' || fresh) && width < spot.column then
        let fold := escapedFold spot.indent (some c)
        fold ++ c :: writeDouble false false { spot with column := fold.length - 1 } rest
      else c :: writeDouble false false { spot with column := spot.column + 1 } rest
    else
      let text := escape c
      let column := spot.column + text.length
      if mayFold && width + 1 < column then
        let fold := escapedFold spot.indent rest.head?
        text ++ fold ++ writeDouble false true { spot with column := fold.length - 2 } rest
      else text ++ writeDouble false true { spot with column := column } rest

def writeString (simpleKey : Bool) (spot : Spot) (s : List Char) : List Char :=
  let inner := { spot with column := spot.column + 1 }
  match style simpleKey s with
  | .plain => writePlain spot (runs s)
  | .single => '\'' :: writeSingle true inner (runs s) ++ ['\'']
  | .double => '"' :: writeDouble true true inner s ++ ['"']

end ApiScaffold.Yaml
