import ApiScaffold.Console.Markup
import ApiScaffold.Text.Quoted

/-!
Handlers whose parameters are plain values in one pair of brackets, and styles as if each of them
were painted.
-/

namespace ApiScaffold.Console

namespace Handler

def isNamePart (c : Char) : Bool := c.isAlphanum || c = '_' || c = '.' || 127 < c.toNat

def isQuoted (s : List Char) : Bool :=
  match s with
  | quote :: rest =>
    (quote = '"' || quote = '\'') && rest.getLast? = some quote && !rest.dropLast.contains quote
  | [] => false

def isNumber (s : List Char) : Bool :=
  s != [] && s.all Char.isDigit && (s.head? != some '0' || s.all (· = '0'))

def isValue (s : List Char) : Bool :=
  isNumber s || isQuoted s || ["True", "False", "None"].contains (String.ofList s)

def parts? (quote : Option Char) (part : List Char) : List Char → Option (List (List Char))
  | [] => if quote.isSome then none else some [part.reverse]
  | c :: rest =>
    match quote with
    | some q => if c = '\\' ∨ c = '\n' then none else parts? (if c = q then none else quote) (c :: part) rest
    | none =>
      if c = ',' then (parts? none [] rest).map (part.reverse :: ·)
      else parts? (if c = '"' ∨ c = '\'' then some c else none) (c :: part) rest

def areValues (s : List Char) : Bool :=
  match parts? none [] s with
  | some parts =>
    let parts := parts.map Text.strip
    (if parts.getLast? = some [] then parts.dropLast else parts).all isValue
  | none => false

def isRead (parameters : List Char) : Bool :=
  let s := Text.strip parameters
  match s.dropWhile isNamePart with
  | [] => true
  | '(' :: rest => rest.getLast? = some ')' && areValues rest.dropLast
  | _ => isValue s

def fault? (parameters : List Char) : Option String :=
  if isRead parameters then none
  else some ("error parsing " ++ Text.quoted (String.ofList parameters) ++ "; invalid syntax")

end Handler

def openingTags (markup : String) : List (List Char) :=
  (piecesFrom 0 [] 0 markup.toList).filterMap fun
    | .tag inside _ => if inside.head? = some '/' then none else some inside
    | .text _ => none

def paintedStyle (inside : List Char) : Except NumberFault String := do
  let name ← Style.normalize (tagName inside)
  Style.normalize (tagStyle name inside)

def tagFault? (inside : List Char) : Option NumberFault :=
  match paintedStyle inside with
  | .ok _ => none
  | .error fault => some fault

instance : Painter where
  handlerFault? := Handler.fault?
  styleFault? _ markup := (openingTags markup).findSome? tagFault?

/-- Nothing but a style with a faulty number is a fault of painting. -/
class LawfulPainter [Painter] : Prop where
  styleFault?_eq_none {columns : Nat} {markup : String} :
    (∀ inside ∈ openingTags markup, ∃ style, paintedStyle inside = .ok style) →
      Painter.styleFault? columns markup = none

instance : LawfulPainter where
  styleFault?_eq_none h := List.findSome?_eq_none_iff.mpr fun inside hinside => by
    obtain ⟨style, hstyle⟩ := h inside hinside
    rw [tagFault?, hstyle]

end ApiScaffold.Console
