import ApiScaffold.Text.Class
import ApiScaffold.Text.Quoted
import ApiScaffold.Text.Split

/-!
Reading the arguments of a command by its flags. A long name may be shortened as long as one flag
alone fits, a value may be attached, and short flags may share a dash. After `--` there are no flags.
-/

namespace ApiScaffold.Command

structure Flag (κ : Type) where
  key : κ
  names : List String
  takesValue : Bool

inductive ArgumentFault where
  | ambiguous (argument : String) (candidates : List String)
  | missingValue (names : List String)
  | uselessValue (names : List String) (value : String)
  | missingCommand
  | unknownCommand (name : String) (known : List String)
  | unrecognized (arguments : List String)
  deriving DecidableEq

def ArgumentFault.message : ArgumentFault → String
  | ambiguous argument candidates =>
    "ambiguous option: " ++ argument ++ " could match " ++ ", ".intercalate candidates
  | missingValue names => "argument " ++ "/".intercalate names ++ ": expected one argument"
  | uselessValue names value =>
    "argument " ++ "/".intercalate names ++ ": ignored explicit argument " ++ Text.quoted value
  | missingCommand => "the following arguments are required: command"
  | unknownCommand name known =>
    "argument command: invalid choice: " ++ Text.quoted name ++ " (choose from "
      ++ ", ".intercalate (known.map Text.quoted) ++ ")"
  | unrecognized arguments => "unrecognized arguments: " ++ " ".intercalate arguments

structure Attached where
  isAssigned : Bool
  text : List Char

inductive Word (κ : Type) where
  | operand
  | separator
  | flag (flag : Flag κ) (isShort : Bool) (attached : Option Attached)
  | unknownFlag

variable {κ : Type}

def Word.isFlag : Word κ → Bool
  | flag .. | unknownFlag => true
  | operand | separator => false

def lookup (flags : List (Flag κ)) (name : List Char) : Option (Flag κ) :=
  flags.find? (·.names.contains (String.ofList name))

def isShort : List Char → Bool
  | '-' :: '-' :: _ => false
  | _ => true

def splitValue (s : List Char) : List Char × Option Attached :=
  let name := s.takeWhile (· != '=')
  (name, (s.drop name.length).tail?.map (⟨true, ·⟩))

def candidates (flags : List (Flag κ)) (s : List Char) : List (String × Word κ) :=
  let (start, value) := if isShort s then (s, none) else splitValue s
  flags.flatMap fun flag => flag.names.filterMap fun name =>
    if isShort s ∧ name.toList = s.take 2 then some (name, .flag flag true (some ⟨false, s.drop 2⟩))
    else if start.isPrefixOf name.toList then some (name, .flag flag (isShort name.toList) value)
    else none

def isNegativeNumber : List Char → Bool
  | '-' :: s =>
    let s := if s.getLast? = some '\n' then s.dropLast else s
    match s.dropWhile Text.isDecimal with
    | [] => !s.isEmpty
    | '.' :: fraction => !fraction.isEmpty && fraction.all Text.isDecimal
    | _ => false
  | _ => false

def classify (flags : List (Flag κ)) (argument : String) : Except ArgumentFault (Word κ) :=
  let s := argument.toList
  let (name, value) := splitValue s
  if s.head? ≠ some '-' ∨ s = ['-'] then .ok .operand
  else
    match lookup flags s, value, lookup flags name with
    | some flag, _, _ => .ok (.flag flag (isShort s) none)
    | none, some value, some flag => .ok (.flag flag (isShort name) (some value))
    | _, _, _ =>
      match candidates flags s with
      | [] => .ok (if isNegativeNumber s || s.contains ' ' then .operand else .unknownFlag)
      | [(_, word)] => .ok word
      | several => .error (.ambiguous argument (several.map Prod.fst))

def classifyAll (flags : List (Flag κ)) : List String → Except ArgumentFault (List (String × Word κ))
  | [] => .ok []
  | argument :: rest =>
    if argument = "--" then .ok ((argument, .separator) :: rest.map (·, .operand))
    else do
      let word ← classify flags argument
      return (argument, word) :: (← classifyAll flags rest)

inductive Ending (κ : Type) where
  | flag (flag : Flag κ)
  | value (flag : Flag κ) (text : List Char)
  | unknown (text : List Char)

/--
A flag with a text attached, as the flags without a value that come first and the end. Where the flag
takes no value, the text has to name further short flags.
-/
def readAttached (flags : List (Flag κ)) (flag : Flag κ) (short assigned : Bool) (s : List Char) :
    Except ArgumentFault (List κ × Ending κ) :=
  if flag.takesValue then .ok ([], .value flag s)
  else
    match s with
    | [] => .error (.uselessValue flag.names "")
    | c :: rest =>
      if !short || assigned || c = '-' then .error (.uselessValue flag.names (String.ofList s))
      else
        match lookup flags ['-', c], rest with
        | none, _ => .ok ([flag.key], .unknown ('-' :: s))
        | some next, [] => .ok ([flag.key], .flag next)
        | some next, '=' :: rest => do
          let (first, ending) ← readAttached flags next true true rest
          return (flag.key :: first, ending)
        | some next, rest => do
          let (first, ending) ← readAttached flags next true false rest
          return (flag.key :: first, ending)

def readFlag (flags : List (Flag κ)) (flag : Flag κ) (short : Bool) :
    Option Attached → Except ArgumentFault (List κ × Ending κ)
  | none => .ok ([], .flag flag)
  | some attached => readAttached flags flag short attached.isAssigned attached.text

inductive Stop where
  | help
  | version
  | fault (fault : ArgumentFault)

def walk {σ : Type} (flags : List (Flag κ)) (step : σ → κ → Option String → Except Stop σ) (state : σ) :
    List (String × Word κ) → Except Stop (σ × List String)
  | [] => .ok (state, [])
  | (_, .flag flag short attached) :: rest => do
    let (first, ending) ← (readFlag flags flag short attached).mapError .fault
    let apply (key : κ) (value : Option String) : Except Stop σ := do
      step (← first.foldlM (step · · none) state) key value
    match ending with
    | .value flag text => walk flags step (← apply flag.key (some (String.ofList text))) rest
    | .unknown text =>
      let (state, others) ← walk flags step (← first.foldlM (step · · none) state) rest
      return (state, String.ofList text :: others)
    | .flag flag =>
      if !flag.takesValue then walk flags step (← apply flag.key none) rest
      else
        match rest with
        | (value, .operand) :: rest => walk flags step (← apply flag.key (some value)) rest
        | _ => .error (.fault (.missingValue flag.names))
  | (argument, _) :: rest => do
    let (state, others) ← walk flags step state rest
    return (state, argument :: others)

end ApiScaffold.Command
