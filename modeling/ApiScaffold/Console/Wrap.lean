import ApiScaffold.Console.Width
import ApiScaffold.Text.Split

namespace ApiScaffold.Console

/--
A line that is too wide breaks between words, and words that are too wide are broken or else cropped
and marked. A single line is cropped and marked itself.
-/
inductive Fitting where
  | folded
  | wrapped
  | single
  deriving DecidableEq

def tabSize : Nat := 8

def joinTabbed (column : Nat) : List (List Char) → List Char
  | [] => []
  | [part] => part
  | part :: rest =>
    let used := column + width (part ++ [' '])
    let stop := (used + tabSize - 1) / tabSize * tabSize
    part ++ ' ' :: List.replicate (stop - used) ' ' ++ joinTabbed stop rest

def expandTabs (s : List Char) : List Char := joinTabbed 0 (Text.splitAt '\t' s)

theorem expandTabs_of_notMem {s : List Char} (h : '\t' ∉ s) : expandTabs s = s := by
  simp [expandTabs, Text.splitAt_of_notMem h, joinTabbed]

def words (s : List Char) : List (List Char) :=
  match s.splitBy fun c d => !(Text.isBlank c && !Text.isBlank d) with
  | first :: second :: rest =>
    if first.all Text.isBlank then (first ++ second) :: rest else first :: second :: rest
  | groups => groups

structure Filling where
  finished : List (List Char)
  line : List Char
  column : Nat

namespace Filling

def empty : Filling := ⟨[], [], 0⟩

def newLine (f : Filling) : Filling :=
  if f.finished.isEmpty && f.line.isEmpty then f else ⟨f.line :: f.finished, [], 0⟩

def push (f : Filling) (s : List Char) : Filling :=
  { f with line := f.line ++ s, column := f.column + width s }

def add (fold : Bool) (columns : Nat) (f : Filling) (word : List Char) : Filling :=
  let needed := width (Text.stripEnd word)
  if f.column + needed ≤ columns then f.push word
  else if fold && columns < needed then (chop columns word).foldl (fun f piece => f.newLine.push piece) f
  else f.newLine.push word

def lines (f : Filling) : List (List Char) := (f.line :: f.finished).reverse

end Filling

def breakLine (fold : Bool) (columns : Nat) (s : List Char) : List (List Char) :=
  ((words s).foldl (Filling.add fold columns) .empty).lines

/-- Drops blanks at the end of a line as far as it has more characters than columns. -/
def trimEnd (columns : Nat) (s : List Char) : List Char :=
  s.take (s.length - min (s.reverse.takeWhile Text.isBlank).length (s.length - columns))

def layLine (fitting : Fitting) (columns : Nat) (s : List Char) : List (List Char) :=
  match fitting with
  | .folded => (breakLine true columns s).map (truncate columns ∘ trimEnd columns)
  | .wrapped => (breakLine false columns s).map (truncateMarked columns ∘ trimEnd columns)
  | .single => [truncateMarked columns (trimEnd columns s)]

def layOut (fitting : Fitting) (columns : Nat) (s : List Char) : List (List Char) :=
  (Text.splitAt '\n' s).flatMap (layLine fitting columns ∘ expandTabs)

end ApiScaffold.Console
