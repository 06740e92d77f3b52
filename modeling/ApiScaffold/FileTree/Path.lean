import ApiScaffold.Text.Split

/-!
POSIX paths in normal form: empty and `.` segments are dropped, `..` is kept. A path that starts with
exactly two slashes keeps both.
-/

namespace ApiScaffold

abbrev Location := List String

def Location.text (location : Location) : String := "/" ++ "/".intercalate location

inductive Path.Root where
  | relative
  | single
  | double
  deriving DecidableEq

structure Path where
  root : Path.Root
  segments : List String
  deriving DecidableEq

namespace Path

def Root.text : Root → String
  | relative => ""
  | single => "/"
  | double => "//"

def rootOf : List Char → Root
  | '/' :: '/' :: '/' :: _ => .single
  | '/' :: '/' :: _ => .double
  | '/' :: _ => .single
  | _ => .relative

def isSegment (s : List Char) : Bool := s != [] && s != ['.']

def ofString (s : String) : Path :=
  ⟨rootOf s.toList, ((Text.splitAt '/' s.toList).filter isSegment).map String.ofList⟩

def text (p : Path) : String :=
  if p.root = .relative ∧ p.segments = [] then "." else p.root.text ++ "/".intercalate p.segments

def append (p q : Path) : Path :=
  if q.root = .relative then ⟨p.root, p.segments ++ q.segments⟩ else q

def join (p : Path) (s : String) : Path := p.append (ofString s)

def parent (p : Path) : Path := ⟨p.root, p.segments.dropLast⟩

def resolve (cwd : Location) (p : Path) : Location :=
  p.segments.foldl (fun location name => if name = ".." then location.dropLast else location ++ [name])
    (if p.root = .relative then cwd else [])

end Path

end ApiScaffold
