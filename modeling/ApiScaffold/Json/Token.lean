import ApiScaffold.Data.Basic
import ApiScaffold.Json.Quoted
import ApiScaffold.Numeric.Digits

/-!
The tokens of a JSON text, each with the offset of its first character. The list ends with `finish`
or with the first fault.
-/

namespace ApiScaffold.Json

inductive Fault where
  | expectedValue
  | expectedKey
  | expectedColon
  | expectedComma
  | extraText
  | unterminatedString
  | controlCharacter
  | invalidEscape
  | invalidUnicodeEscape
  | byteOrderMark
  | tooManyDigits (count : Nat)

structure Failure where
  fault : Fault
  offset : Nat

inductive Token where
  | openList
  | closeList
  | openMap
  | closeMap
  | comma
  | colon
  | scalar (value : Data)
  | badString (failure : Failure)
  | badScalar (failure : Failure)
  | finish

def unescape? (letter : Char) : Option Nat :=
  match letter with
  | '"' => some 0x22
  | '\\' => some 0x5C
  | '/' => some 0x2F
  | 'b' => some 8
  | 'f' => some 12
  | 'n' => some 10
  | 'r' => some 13
  | 't' => some 9
  | _ => none

/--
The code units of a string literal from its second character on, and the text after its closing
quote. `start` is the offset of the opening quote, `offset` that of the first character left.
-/
def readString (start offset : Nat) : List Char → Except Failure (List Nat × List Char)
  | [] => .error ⟨.unterminatedString, start⟩
  | '"' :: rest => .ok ([], rest)
  | '\\' :: 'u' :: a :: b :: c :: d :: next :: rest =>
    match Text.hexValue? [a, b, c, d] with
    | some unit =>
      (readString start (offset + 6) (next :: rest)).map fun (units, rest) => (unit :: units, rest)
    | none => .error ⟨.invalidUnicodeEscape, offset + 1⟩
  | '\\' :: 'u' :: _ => .error ⟨.invalidUnicodeEscape, offset + 1⟩
  | ['\\'] => .error ⟨.unterminatedString, start⟩
  | '\\' :: letter :: rest =>
    match unescape? letter with
    | some unit => (readString start (offset + 2) rest).map fun (units, rest) => (unit :: units, rest)
    | none => .error ⟨.invalidEscape, offset⟩
  | c :: rest =>
    if c.toNat < 0x20 then .error ⟨.controlCharacter, offset⟩
    else (readString start (offset + 1) rest).map fun (units, rest) => (c.toNat :: units, rest)

def joinUnits : List Nat → List Char
  | [] => []
  | high :: low :: rest =>
    if 0xD800 ≤ high ∧ high < 0xDC00 ∧ 0xDC00 ≤ low ∧ low < 0xE000 then
      Char.ofNat (0x10000 + (high - 0xD800) * 0x400 + (low - 0xDC00)) :: joinUnits rest
    else (if 0xD800 ≤ high ∧ high < 0xE000 then '\ufffd' else Char.ofNat high) :: joinUnits (low :: rest)
  | [unit] => [if 0xD800 ≤ unit ∧ unit < 0xE000 then '\ufffd' else Char.ofNat unit]

def fraction (s : List Char) : List Char × List Char :=
  match s with
  | '.' :: rest =>
    let digits := rest.takeWhile Char.isDigit
    if digits.isEmpty then ([], s) else (digits, rest.dropWhile Char.isDigit)
  | _ => ([], s)

def exponent? (s : List Char) : Option Int × List Char :=
  match s with
  | mark :: rest =>
    if mark = 'e' ∨ mark = 'E' then
      let (negative, unsigned) := match rest with
        | '-' :: unsigned => (true, unsigned)
        | '+' :: unsigned => (false, unsigned)
        | unsigned => (false, unsigned)
      let digits := unsigned.takeWhile Char.isDigit
      if digits.isEmpty then (none, s)
      else
        let n : Int := digitsValue digits
        (some (if negative then -n else n), unsigned.dropWhile Char.isDigit)
    else (none, s)
  | [] => (none, s)

def wholePart : List Char → List Char × List Char
  | '0' :: rest => (['0'], rest)
  | s => (s.takeWhile Char.isDigit, s.dropWhile Char.isDigit)

def readNumber (negative : Bool) (s : List Char) : Except Fault (Data × List Char) :=
  let (whole, rest) := wholePart s
  if whole.isEmpty then .error .expectedValue
  else
    let (places, rest) := fraction rest
    let (power, rest) := exponent? rest
    let n := digitsValue (whole ++ places)
    if places.isEmpty ∧ power.isNone then
      if maxDigits < whole.length then .error (.tooManyDigits whole.length)
      else .ok (.int (if negative then -(n : Int) else n), rest)
    else .ok (.float (Binary64.ofDecimal negative n (power.getD 0 - places.length)), rest)

def words : List (String × Data) := [
  ("null", .null), ("true", .bool true), ("false", .bool false), ("NaN", .float .nan),
  ("Infinity", .float (.infinite false)), ("-Infinity", .float (.infinite true))]

def readScalar (s : List Char) : Except Fault (Data × List Char) :=
  match words.find? fun (word, _) => word.toList.isPrefixOf s with
  | some (word, value) => .ok (value, s.drop word.length)
  | none =>
    match s with
    | '-' :: unsigned => readNumber true unsigned
    | _ => readNumber false s

theorem readString_length {start offset : Nat} {s : List Char} {units rest}
    (h : readString start offset s = .ok (units, rest)) : rest.length < s.length := by
  fun_induction readString start offset s generalizing units rest <;>
    simp_all [Except.map] <;> (try split at h) <;> simp_all <;> grind

theorem fraction_length (s : List Char) : (fraction s).2.length ≤ s.length := by
  have := (List.dropWhile_sublist (l := s.tail) Char.isDigit).length_le
  unfold fraction
  split
  · dsimp only; split
    · simp
    · simp at this ⊢; omega
  · simp

theorem exponent?_length (s : List Char) : (exponent? s).2.length ≤ s.length := by
  have h := fun t : List Char => (List.dropWhile_sublist (l := t) Char.isDigit).length_le
  unfold exponent?
  repeat' split
  all_goals grind

theorem readNumber_length {negative : Bool} {s : List Char} {v rest}
    (h : readNumber negative s = .ok (v, rest)) : rest.length < s.length := by
  have hw : (wholePart s).1.length + (wholePart s).2.length = s.length := by
    unfold wholePart
    split
    · simp; omega
    · rw [← List.length_append, List.takeWhile_append_dropWhile]
  have hf := fraction_length (wholePart s).2
  have he := exponent?_length (fraction (wholePart s).2).2
  simp only [readNumber] at h
  split at h
  · simp at h
  · rename_i hne
    have : 0 < (wholePart s).1.length := by
      cases hp : (wholePart s).1 <;> simp_all
    split at h
    · split at h
      · simp at h
      · simp at h; rw [← h.2]; omega
    · simp at h; rw [← h.2]; omega

theorem readScalar_length {s : List Char} {v rest} (h : readScalar s = .ok (v, rest)) :
    rest.length < s.length := by
  unfold readScalar at h
  split at h
  · rename_i word value hfind
    have hmem := List.mem_of_find?_eq_some hfind
    have hprefix : word.toList.isPrefixOf s := by simpa using List.find?_some hfind
    have hle := (List.isPrefixOf_iff_prefix.mp hprefix).length_le
    have hpos : 0 < word.length := by
      simp [words] at hmem
      rcases hmem with ⟨rfl, -⟩ | ⟨rfl, -⟩ | ⟨rfl, -⟩ | ⟨rfl, -⟩ | ⟨rfl, -⟩ | ⟨rfl, -⟩ <;> decide
    simp at h
    rw [← h.2, List.length_drop]
    simp only [String.length_toList] at hle
    omega
  · split at h
    · have := readNumber_length h; simp; omega
    · exact readNumber_length h

def isSpace (c : Char) : Bool := c = ' ' || c = '\t' || c = '\n' || c = '\r'

def punctuation? (c : Char) : Option Token :=
  match c with
  | '[' => some .openList
  | ']' => some .closeList
  | '\x7b' => some .openMap
  | '\x7d' => some .closeMap
  | ',' => some .comma
  | ':' => some .colon
  | _ => none

def tokens (offset : Nat) (s : List Char) : List (Nat × Token) :=
  match s with
  | [] => [(offset, .finish)]
  | c :: tail =>
    if isSpace c then tokens (offset + 1) tail
    else
      match punctuation? c with
      | some token => (offset, token) :: tokens (offset + 1) tail
      | none =>
        if c = '"' then
          match h : readString offset (offset + 1) tail with
          | .ok (units, rest) =>
            (offset, .scalar (.string (String.ofList (joinUnits units))))
              :: tokens (offset + 1 + (tail.length - rest.length)) rest
          | .error failure => [(offset, .badString failure)]
        else
          match h : readScalar (c :: tail) with
          | .ok (value, rest) =>
            (offset, .scalar value) :: tokens (offset + (tail.length + 1 - rest.length)) rest
          | .error fault => [(offset, .badScalar ⟨fault, offset⟩)]
termination_by s.length
decreasing_by
  · simp
  · simp
  · have := readString_length h; simp; omega
  · have := readScalar_length h; simpa using this

end ApiScaffold.Json
