import ApiScaffold.Console.Painter
import ApiScaffold.Console.Table

namespace ApiScaffold.Console

inductive Message where
  | blank
  | plain (text : String)
  | header (title : String)
  | success (text : String)
  | warning (text : String)
  | error (text : String)
  | table (t : Table)
  deriving DecidableEq

namespace Message

def unlines (lines : List (List Char)) : String := String.ofList (lines.flatMap (· ++ ['\n']))

def paragraph [Painter] (columns : Nat) (text : String) : Except MarkupFault String := do
  return unlines (layOut .folded columns (← paintedText columns text))

def styled (style text : String) : String := "[" ++ style ++ "]" ++ text ++ "[/" ++ style ++ "]"

def headerMargin : Nat := 4

def headerLine (columns : Nat) (title : List Char) : List Char :=
  let room := columns - headerMargin
  if room = 0 then List.replicate columns '─'
  else
    let title := truncateMarked room (expandTabs (title.map fun c => if c = '\n' then ' ' else c))
    let side := (columns - width title) / 2
    let left := List.replicate (side - 1) '─'
    let right := List.replicate (min (side + 1) (columns - left.length - width title)) '─'
    fit columns (left ++ ' ' :: title ++ ' ' :: right)

def render [Painter] (columns : Nat) : Message → Except MarkupFault String
  | blank => .ok "\n"
  | plain text => paragraph columns text
  | header title => do
    let title ← paintedText columns (styled "bold bright_cyan" (" " ++ title ++ " "))
    return unlines [[], headerLine columns title, []]
  | success text => paragraph columns (styled "bold green" text)
  | warning text => paragraph columns (styled "bold yellow" text)
  | error text => paragraph columns (styled "bold red" text)
  | table t => do return unlines ((← t.lines columns) ++ [[]])

def renderAll [Painter] (columns : Nat) : List Message → String × Option MarkupFault
  | [] => ("", none)
  | message :: rest =>
    match message.render columns with
    | .ok text => let (others, fault) := renderAll columns rest; (text ++ others, fault)
    | .error fault => ("", some fault)

end Message

end ApiScaffold.Console
