import ApiScaffold.Console.Markup
import ApiScaffold.Console.Wrap

/-!
Tables of items and values. Columns are as wide as their content; where there is too little room, the
values give way first. An item stays in one line, a value breaks between words.
-/

namespace ApiScaffold.Console

structure Table where
  title : String
  rows : List (String × String)
  deriving DecidableEq

namespace Table

def padding : Nat := 2

def borders : Nat := 3

def isLineEnd (c : Char) : Bool :=
  c = '\n' || ('\x1c' ≤ c && c ≤ '\x1e') || c = '\x85' || c = '\u2028' || c = '\u2029'

def naturalWidth (s : List Char) : Nat :=
  ((Text.splitAt '\n' (s.map fun c => if isLineEnd c then '\n' else c)).map width).foldl max 0

/-- The columns that a cell would take of those there are. Without room for a character it is not read. -/
def measureCell [Painter] (room : Nat) (cell : String) : Except MarkupFault Nat := do
  if room ≤ padding then return room
  return min room (naturalWidth (← plainText cell) + padding)

def measure [Painter] (room : Nat) (cells : List String) : Except MarkupFault Nat := do
  return (← cells.mapM (measureCell room)).foldl max 0

structure Widths where
  item : Nat
  value : Nat

def Widths.total (w : Widths) : Nat := w.item + w.value

/-- Takes what is too much from the values, and only what they do not have from the items. -/
def Widths.shrink (room : Nat) (w : Widths) : Widths :=
  let excess := w.total - room
  ⟨w.item - (excess - w.value), w.value - excess⟩

theorem Widths.total_shrink (room : Nat) (w : Widths) : (w.shrink room).total = min room w.total := by
  simp only [shrink, total]; omega

def items (t : Table) : List String := "Item" :: t.rows.map Prod.fst

def values (t : Table) : List String := "Value" :: t.rows.map Prod.snd

def widths [Painter] (t : Table) (room : Nat) : Except MarkupFault Widths := do
  let item ← measure room t.items
  let value ← measure room t.values
  let natural : Widths := ⟨max 1 item, max 1 value⟩
  if natural.total ≤ room then return natural
  let w := natural.shrink room
  return ⟨← measure w.item t.items, ← measure w.value t.values⟩

def center (columns : Nat) (s : List Char) : List Char :=
  fit columns (List.replicate ((columns - width s) / 2) ' ' ++ s)

def titleLines [Painter] (t : Table) (columns : Nat) : Except MarkupFault (List (List Char)) := do
  if t.title = "" then return []
  return (layOut .folded columns (← paintedText columns t.title)).map (center columns ∘ Text.stripEnd)

def cellLines [Painter] (fitting : Fitting) (columns : Nat) (cell : String) :
    Except MarkupFault (List (List Char)) := do
  if columns ≤ padding then return []
  let lines := layOut fitting (columns - padding) (← paintedText (columns - padding) cell)
  return lines.map fun line => ' ' :: fit (columns - padding) line ++ [' ']

def barred (bar : Char) (w : Widths) (item value : List (List Char)) (i : Nat) : List Char :=
  let cell (columns : Nat) (lines : List (List Char)) := lines[i]?.getD (List.replicate columns ' ')
  bar :: cell w.item item ++ bar :: cell w.value value ++ [bar]

def rowLines [Painter] (bar : Char) (w : Widths) (row : String × String) :
    Except MarkupFault (List (List Char)) := do
  let item ← cellLines .single w.item row.1
  let value ← cellLines .wrapped w.value row.2
  return (List.range (max 1 (max item.length value.length))).map (barred bar w item value)

def border (w : Widths) (left line joint right : Char) : List Char :=
  left :: List.replicate w.item line ++ joint :: List.replicate w.value line ++ [right]

def lines [Painter] (t : Table) (columns : Nat) : Except MarkupFault (List (List Char)) := do
  let w ← t.widths (columns - borders)
  let title ← t.titleLines (w.total + borders)
  let heading ← rowLines '┃' w ("Item", "Value")
  let rows ← t.rows.mapM (rowLines '│' w)
  let top := border w '┏' '━' '┳' '┓'
  let rule := border w '┡' '━' '╇' '┩'
  let bottom := border w '└' '─' '┴' '┘'
  return (title ++ [top] ++ heading ++ [rule] ++ rows.flatten ++ [bottom]).map (truncate columns)

end Table

end ApiScaffold.Console
