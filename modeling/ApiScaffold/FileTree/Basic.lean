import ApiScaffold.Assoc
import ApiScaffold.FileTree.Path
import ApiScaffold.Text.Quoted

/-!
A tree of directories and regular files without links. Places are given by the names from the root
on; paths are resolved from a working directory, segment by segment, so that each directory before
`..` has to exist.
-/

namespace ApiScaffold

inductive FileTree.Entry where
  | directory
  | file (content : ByteArray)

/-- The entries by location. The root is always there. -/
structure FileTree where
  entries : List (Location × FileTree.Entry)

namespace FileTree

inductive Errno where
  | notFound
  | exists
  | notDirectory
  | isDirectory
  | nameTooLong
  deriving DecidableEq

inductive Fault where
  | system (errno : Errno) (path : Path)
  | nullByte

def Errno.number : Errno → Nat
  | notFound => 2
  | .exists => 17
  | notDirectory => 20
  | isDirectory => 21
  | nameTooLong => 36

def Errno.text : Errno → String
  | notFound => "No such file or directory"
  | .exists => "File exists"
  | notDirectory => "Not a directory"
  | isDirectory => "Is a directory"
  | nameTooLong => "File name too long"

def Fault.message : Fault → String
  | .system errno path =>
    "[Errno " ++ toString errno.number ++ "] " ++ errno.text ++ ": " ++ Text.quoted path.text
  | .nullByte => "embedded null byte"

def empty : FileTree := ⟨[]⟩

def get? (tree : FileTree) (location : Location) : Option Entry :=
  if location = [] then some .directory else Assoc.get? location tree.entries

def set (tree : FileTree) (location : Location) (entry : Entry) : FileTree :=
  ⟨Assoc.insert location entry tree.entries⟩

theorem get?_set {location : Location} (h : location ≠ []) (tree : FileTree) (entry : Entry)
    (other : Location) :
    (tree.set location entry).get? other = if location = other then some entry else tree.get? other := by
  by_cases ho : other = []
  · subst ho; simp [get?, h]
  · simp [get?, set, ho, Assoc.get?_insert]

def maxName : Nat := 255
def maxPath : Nat := 4096

def child (location : Location) (name : String) : Except Errno Location :=
  if name = ".." then .ok location.dropLast
  else if maxName < name.utf8ByteSize then .error .nameTooLong
  else .ok (location ++ [name])

def walk (tree : FileTree) (location : Location) : List String → Except Errno Location
  | [] => .ok location
  | name :: rest => do
    match tree.get? location with
    | none => .error .notFound
    | some (.file _) => .error .notDirectory
    | some .directory => walk tree (← child location name) rest

def locate (tree : FileTree) (cwd : Location) (path : Path) : Except Fault Location :=
  if path.text.contains '\x00' then .error .nullByte
  else if maxPath ≤ path.text.utf8ByteSize then .error (.system .nameTooLong path)
  else
    match walk tree (if path.root = .relative then cwd else []) path.segments with
    | .ok location => .ok location
    | .error errno => .error (.system errno path)

def entryAt (tree : FileTree) (cwd : Location) (path : Path) : Except Fault Entry := do
  match tree.get? (← locate tree cwd path) with
  | some entry => .ok entry
  | none => .error (.system .notFound path)

def exists? (tree : FileTree) (cwd : Location) (path : Path) : Except Fault Bool :=
  match entryAt tree cwd path with
  | .ok _ => .ok true
  | .error (.system .notFound _) | .error (.system .notDirectory _) | .error .nullByte => .ok false
  | .error fault => .error fault

def isDirectory (tree : FileTree) (cwd : Location) (path : Path) : Bool :=
  match entryAt tree cwd path with
  | .ok .directory => true
  | _ => false

def read (tree : FileTree) (cwd : Location) (path : Path) : Except Fault ByteArray := do
  match ← entryAt tree cwd path with
  | .file content => .ok content
  | .directory => .error (.system .isDirectory path)

def makeDirectory (tree : FileTree) (cwd : Location) (path : Path) : Except Fault FileTree := do
  let location ← locate tree cwd path
  match tree.get? location with
  | some _ => .error (.system .exists path)
  | none => .ok (tree.set location .directory)

def ensureOne (tree : FileTree) (cwd : Location) (path : Path) : Except Fault FileTree :=
  match makeDirectory tree cwd path with
  | .ok tree => .ok tree
  | .error (.system .notFound p) => .error (.system .notFound p)
  | .error .nullByte => .error .nullByte
  | .error fault => if isDirectory tree cwd path then .ok tree else .error fault

structure Outcome where
  tree : FileTree
  fault : Option Fault

def settle (tree : FileTree) : Except Fault FileTree → Outcome
  | .ok changed => ⟨changed, none⟩
  | .error fault => ⟨tree, some fault⟩

def Outcome.andThen (o : Outcome) (next : FileTree → Outcome) : Outcome :=
  match o.fault with
  | none => next o.tree
  | some _ => o

/--
A directory with all that it stands in. `reversed` holds the segments from the last to the first.
Outer directories that were made stay when an inner one cannot be made.
-/
def ensureReversed (tree : FileTree) (cwd : Location) (root : Path.Root) (reversed : List String) : Outcome :=
  let path : Path := ⟨root, reversed.reverse⟩
  match reversed, ensureOne tree cwd path with
  | _ :: outer, .error (.system .notFound _) =>
    (ensureReversed tree cwd root outer).andThen fun tree => settle tree (ensureOne tree cwd path)
  | _, result => settle tree result

def ensureDirectory (tree : FileTree) (cwd : Location) (path : Path) : Outcome :=
  ensureReversed tree cwd path.root path.segments.reverse

def write (tree : FileTree) (cwd : Location) (path : Path) (content : String) : Except Fault FileTree := do
  let location ← locate tree cwd path
  match tree.get? location with
  | some .directory => .error (.system .isDirectory path)
  | _ => .ok (tree.set location (.file content.toUTF8))

end FileTree

end ApiScaffold
