import ApiScaffold.Data.Display
import ApiScaffold.Numeric.Digits

namespace ApiScaffold.Pagination

def defaultLimit : Int := 20

def maxLimit : Int := 100

def leadingInt? (s : List Char) : Option (Bool × List Char) :=
  let s := s.dropWhile Text.isBlank
  let (negative, unsigned) := match s with
    | '-' :: rest => (true, rest)
    | '+' :: rest => (false, rest)
    | rest => (false, rest)
  let digits := unsigned.takeWhile Char.isDigit
  if digits.isEmpty then none else some (negative, digits)

structure TooManyDigits where
  count : Option Nat

def TooManyDigits.message (e : TooManyDigits) : String :=
  match e.count with
  | some count => tooManyDigitsMessage count
  | none => noTextMessage

def textOf? : Data → Option String
  | .null => some ""
  | v => v.text?

def readInt (value : Data) (default : Int) : Except TooManyDigits Int :=
  match textOf? value with
  | none => .error ⟨none⟩
  | some s =>
    match leadingInt? s.toList with
    | none => .ok default
    | some (negative, digits) =>
      if maxDigits < digits.length then .error ⟨some digits.length⟩
      else
        let n : Int := digitsValue digits
        .ok (if n = 0 then default else if negative then -n else n)

abbrev Query := List (String × Data)

def param (name : String) (query : Query) : Data := (Assoc.get? name query).getD .null

def readLimit (query : Query) : Except TooManyDigits Int :=
  (readInt (param "limit" query) defaultLimit).map (min · maxLimit)

structure CursorParams where
  cursor : Option String
  limit : Int

def readCursorParams (query : Query) : Except TooManyDigits CursorParams := do
  let cursor := match param "cursor" query with
    | .string s => some s
    | _ => none
  return ⟨cursor, ← readLimit query⟩

structure OffsetParams where
  offset : Int
  limit : Int

def readOffsetParams (query : Query) : Except TooManyDigits OffsetParams := do
  let offset ← readInt (param "offset" query) 0
  return ⟨offset, ← readLimit query⟩

structure CursorPage (α γ : Type) where
  data : List α
  hasMore : Bool
  nextCursor : Option γ

def cursorPage {α γ ε : Type} (items : List α) (hasMore : Bool) (cursorOf : α → Except ε γ) :
    Except ε (CursorPage α γ) := do
  let last := if hasMore then items.getLast? else none
  return ⟨items, hasMore, ← last.mapM cursorOf⟩

structure OffsetPage (α : Type) where
  data : List α
  total : Int
  offset : Int
  limit : Int

def OffsetPage.hasMore {α : Type} (page : OffsetPage α) : Bool :=
  page.offset + page.data.length < page.total

end ApiScaffold.Pagination
