import ApiScaffold.Text.Split

/-!
The plain scalars that a reader of YAML 1.1 takes for something other than a string: null, booleans,
numbers, timestamps, and the marks of merge and default keys.
-/

namespace ApiScaffold.Yaml

def words : List String := [
  "", "~", "null", "Null", "NULL", "yes", "Yes", "YES", "no", "No", "NO", "true", "True", "TRUE", "false",
  "False", "FALSE", "on", "On", "ON", "off", "Off", "OFF", "<<", "=", ".nan", ".NaN", ".NAN"]

def unsigned : List Char → List Char
  | '-' :: s => s
  | '+' :: s => s
  | s => s

def isDigitOrGap (c : Char) : Bool := c.isDigit || c = '_'

def startsWithDigit : List Char → Bool
  | c :: rest => c.isDigit && rest.all isDigitOrGap
  | [] => false

def startsWithCount (s : List Char) : Bool := startsWithDigit s && s.head? != some '0'

/-- A part of a number in base sixty: one digit, or two of which the first is at most five. -/
def isSixtieth : List Char → Bool
  | [c] => c.isDigit
  | [c, d] => '0' ≤ c && c ≤ '5' && d.isDigit
  | _ => false

def isSexagesimal (head : List Char → Bool) (s : List Char) : Bool :=
  match Text.splitAt ':' s with
  | first :: part :: parts => head first && (part :: parts).all isSixtieth
  | _ => false

def isInt (s : List Char) : Bool :=
  match unsigned s with
  | ['0'] => true
  | '0' :: 'b' :: rest => !rest.isEmpty && rest.all fun c => c = '0' || c = '1' || c = '_'
  | '0' :: 'x' :: rest =>
    !rest.isEmpty && rest.all fun c => isDigitOrGap c || ('a' ≤ c && c ≤ 'f') || ('A' ≤ c && c ≤ 'F')
  | '0' :: rest => rest.all fun c => ('0' ≤ c && c ≤ '7') || c = '_'
  | s => startsWithCount s || isSexagesimal startsWithCount s

def isFraction (s : List Char) : Bool :=
  match s.dropWhile isDigitOrGap with
  | [] => true
  | mark :: sign :: digits =>
    (mark = 'e' || mark = 'E') && (sign = '-' || sign = '+') && !digits.isEmpty && digits.all Char.isDigit
  | _ => false

def isFloat (s : List Char) : Bool :=
  let whole := (unsigned s).takeWhile (· != '.')
  match (unsigned s).dropWhile (· != '.') with
  | _ :: rest =>
    if whole.isEmpty then
      (s.head? = some '.' && startsWithDigit (rest.take 1) && isFraction rest)
        || ["inf", "Inf", "INF"].any (·.toList = rest)
    else
      (startsWithDigit whole && isFraction rest)
        || (isSexagesimal startsWithDigit whole && rest.all isDigitOrGap)
  | [] => false

def isNumber (low high : Nat) (s : List Char) : Bool :=
  low ≤ s.length && s.length ≤ high && s.all Char.isDigit

def isDate (low : Nat) (s : List Char) : Bool :=
  match Text.splitAt '-' s with
  | [year, month, day] => isNumber 4 4 year && isNumber low 2 month && isNumber low 2 day
  | _ => false

def isClock (s : List Char) : Bool :=
  match Text.splitAt ':' s with
  | [hour, minute, second] => isNumber 1 2 hour && isNumber 2 2 minute && isNumber 2 2 second
  | _ => false

def isGap (c : Char) : Bool := c = ' ' || c = '\t'

def isZone (s : List Char) : Bool :=
  match s with
  | ['Z'] => true
  | sign :: rest =>
    (sign = '-' || sign = '+') &&
      match Text.splitAt ':' rest with
      | [hour] => isNumber 1 2 hour
      | [hour, minute] => isNumber 1 2 hour && isNumber 2 2 minute
      | _ => false
  | [] => false

def isClockTail (s : List Char) : Bool :=
  let rest := match s with
    | '.' :: rest => rest.dropWhile Char.isDigit
    | _ => s
  rest.isEmpty || isZone (rest.dropWhile isGap)

def isClockChar (c : Char) : Bool := c.isDigit || c = ':'

def isInstant (s : List Char) : Bool :=
  let isDateChar := fun c : Char => c.isDigit || c = '-'
  let date := s.takeWhile isDateChar
  let clock := match s.dropWhile isDateChar with
    | c :: rest =>
      if c = 'T' ∨ c = 't' then some rest else if isGap c then some (rest.dropWhile isGap) else none
    | [] => none
  isDate 1 date && clock.any fun rest =>
    isClock (rest.takeWhile isClockChar) && isClockTail (rest.dropWhile isClockChar)

def isImplicit (s : List Char) : Bool :=
  words.any (·.toList = s) || isInt s || isFloat s || isDate 2 s || isInstant s

end ApiScaffold.Yaml
