import ApiScaffold.Command.Run

namespace ApiScaffold.Program

open Console (Told)
open FileTree (Change Errno)

abbrev FileFault := FileTree.Fault
abbrev Fault := Command.Fault

def columns : Nat := 80

def hasNumber (code : UInt32) (errno : Errno) : Bool :=
  errno.number = min code.toNat (UInt32.size - code.toNat)

def errno? : IO.Error → Option Errno
  | .noFileOrDirectory .. => some .notFound
  | .alreadyExists .. => some .exists
  | .inappropriateType _ code _ => [Errno.notDirectory, .isDirectory].find? (hasNumber code)
  | .invalidArgument _ code _ => [Errno.nameTooLong].find? (hasNumber code)
  | _ => none

def attempt {α : Type} (path : Path) (action : IO α) : IO (Except FileFault α) := do
  if path.text.contains '\x00' then return .error .nullByte
  try return .ok (← action)
  catch e =>
    match errno? e with
    | some errno => return .error (.system errno path)
    | none => throw e

def read (path : Path) : IO (Except FileFault ByteArray) := attempt path (IO.FS.readBinFile path.text)

def isDirectory (path : Path) : IO Bool := do
  match ← read path with
  | .error (.system .isDirectory _) => return true
  | _ => return false

def exists? (path : Path) : IO (Except FileFault Bool) := do
  match ← read path with
  | .ok _ | .error (.system .isDirectory _) => return .ok true
  | .error (.system .notFound _) | .error (.system .notDirectory _) | .error .nullByte => return .ok false
  | .error fault => return .error fault

def ensureOne (path : Path) : IO (Option FileFault) := do
  match ← attempt path (IO.FS.createDir path.text) with
  | .ok () => return none
  | .error fault =>
    match fault with
    | .nullByte | .system .notFound _ => return some fault
    | _ => if ← isDirectory path then return none else return some fault

def ensureReversed (root : Path.Root) (reversed : List String) : IO (Option FileFault) := do
  let path : Path := ⟨root, reversed.reverse⟩
  match reversed, ← ensureOne path with
  | _ :: outer, some (.system .notFound _) =>
    match ← ensureReversed root outer with
    | none => ensureOne path
    | some fault => return some fault
  | _, result => return result

def apply : Change → IO (Option FileFault)
  | .directory path => ensureReversed path.root path.segments.reverse
  | .file path content => do
    match ← attempt path (IO.FS.writeFile path.text content) with
    | .ok () => return none
    | .error fault => return some fault

def applyAll : List Change → IO (Option FileFault)
  | [] => return none
  | change :: rest => do
    match ← apply change with
    | none => applyAll rest
    | some fault => return some fault

def now : IO Binary64 := do return .ofRat (mkRat (← IO.monoNanosNow) (Nat.pow 10 9))

def tell {α : Type} (told : Told Fault α) (next : α → IO (Except Fault Unit)) : IO (Except Fault Unit) := do
  IO.print told.text
  match told.result with
  | .ok a => next a
  | .error fault => return .error fault

def last (_ : Unit) : IO (Except Fault Unit) := return .ok ()

def create (path : Path) (force : Bool) : IO (Except Fault Unit) := do
  match Config.initializing path force (← exists? path) with
  | .error fault => return .error (.save fault)
  | .ok changes =>
    match ← applyAll changes with
    | some fault => return .error (.save (.file fault))
    | none => tell (Command.say columns (Command.created path)) last

def load (path : Path) : IO (Except Config.LoadFault Config) := do
  match ← exists? path with
  | .error fault => return .error (.file fault)
  | .ok false => return .ok Config.default
  | .ok true =>
    match ← read path with
    | .error fault => return .error (.file fault)
    | .ok content => return Config.ofBytes path content

def generate (path : Path) (output : Option String) (selection : Selection) : IO (Except Fault Unit) := do
  match ← load path with
  | .error fault => return .error (.load fault)
  | .ok config =>
    let config := Command.withOutput config output
    let start ← now
    let cwd := (Path.ofString (← IO.currentDir).toString).segments
    tell ((Run.prepare columns cwd config selection).mapFault .run) fun sets => do
      let faults ← sets.mapM fun s => applyAll (s.changes config.outputDir)
      let elapsed := (← now).sub start
      tell ((Run.conclude columns config sets faults elapsed).mapFault .run) fun r =>
        tell (Command.say columns (Command.generated r)) last

def execute : Command → IO (Except Fault Unit)
  | .init config force => create (.ofString config) force
  | .generate config output selection => generate (.ofString config) output selection

end ApiScaffold.Program

open ApiScaffold in
def main (arguments : List String) : IO UInt32 := do
  match Command.parse arguments with
  | .error e =>
    IO.print e.output
    IO.eprint e.errors
    return UInt32.ofNat e.code
  | .ok command =>
    let ending := Command.finish Program.columns ⟨"", ← Program.execute command⟩
    IO.print ending.text
    match ending.result with
    | .ok code => return UInt32.ofNat code
    | .error fault =>
      IO.eprintln fault.message
      return 1
