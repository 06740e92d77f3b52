import ApiScaffold.Command.Argument
import ApiScaffold.Config.File
import ApiScaffold.Run.Build

namespace ApiScaffold

namespace Command

inductive Key where
  | help
  | version
  | config
  | force
  | output
  | target (target : Target)

end Command

inductive Command where
  | init (config : String) (force : Bool)
  | generate (config : String) (output : Option String) (selection : Selection)
  deriving DecidableEq

namespace Command

structure Settings where
  config : String := Config.fileName
  force : Bool := false
  output : Option String := none
  selection : Selection := {}

def Settings.set (s : Settings) (key : Key) (value : Option String) : Except Stop Settings :=
  match key with
  | .help => .error .help
  | .version => .error .version
  | .config => .ok { s with config := value.getD s.config }
  | .force => .ok { s with force := true }
  | .output => .ok { s with output := value }
  | .target .core => .ok { s with selection := { s.selection with core := true } }
  | .target .contracts => .ok { s with selection := { s.selection with contracts := true } }
  | .target .adapters => .ok { s with selection := { s.selection with adapters := true } }

structure Manual where
  name : String
  usage : String
  details : String
  flags : List (Flag Key)

def helpFlag : Flag Key := ⟨.help, ["-h", "--help"], false⟩

def program : Manual where
  name := "bridgegen"
  usage := "usage: bridgegen [-h] [--version] \x7binit,generate\x7d ...\n"
  details := "
CoreBridge -- generate core, contracts and platform adapter packages

positional arguments:
  \x7binit,generate\x7d
    init           Write a default corebridge.config.json
    generate       Generate packages from the config

options:
  -h, --help       show this help message and exit
  --version        show program's version number and exit

Examples:
  bridgegen init
  bridgegen generate -o ./packages
  bridgegen generate --adapters-only
"
  flags := [helpFlag, ⟨.version, ["--version"], false⟩]

def initManual : Manual where
  name := "bridgegen init"
  usage := "usage: bridgegen init [-h] [--config CONFIG] [--force]\n"
  details := "
options:
  -h, --help       show this help message and exit
  --config CONFIG  Config file to create (default: corebridge.config.json)
  --force          Overwrite an existing config file
"
  flags := [helpFlag, ⟨.config, ["--config"], true⟩, ⟨.force, ["--force"], false⟩]

def generateManual : Manual where
  name := "bridgegen generate"
  usage := "usage: bridgegen generate [-h] [--config CONFIG] [--output OUTPUT]
                          [--core-only] [--contracts-only] [--adapters-only]
"
  details := "
options:
  -h, --help            show this help message and exit
  --config CONFIG, -c CONFIG
                        Config file to read (default: corebridge.config.json)
  --output OUTPUT, -o OUTPUT
                        Output directory (overrides outputDir from the config)
  --core-only           Generate the core package
  --contracts-only      Generate the contracts package
  --adapters-only       Generate the adapter packages
"
  flags := [
    helpFlag, ⟨.config, ["--config", "-c"], true⟩, ⟨.output, ["--output", "-o"], true⟩,
    ⟨.target .core, ["--core-only"], false⟩, ⟨.target .contracts, ["--contracts-only"], false⟩,
    ⟨.target .adapters, ["--adapters-only"], false⟩]

def version : String := "bridgegen 0.1.0\n"

structure Exit where
  code : Nat
  output : String
  errors : String
  deriving DecidableEq

def Manual.exit (m : Manual) : Stop → Exit
  | .help => ⟨0, m.usage ++ m.details, ""⟩
  | .version => ⟨0, version, ""⟩
  | .fault fault => ⟨2, "", m.usage ++ m.name ++ ": error: " ++ fault.message ++ "\n"⟩

def Manual.read (m : Manual) (arguments : List String) : Except Stop (Settings × List String) := do
  walk m.flags Settings.set {} (← (classifyAll m.flags arguments).mapError .fault)

def known : List (String × Manual × (Settings → Command)) := [
  ("init", initManual, fun s => .init s.config s.force),
  ("generate", generateManual, fun s => .generate s.config s.output s.selection)]

def parse (arguments : List String) : Except Exit Command := do
  let stop {α : Type} (fault : ArgumentFault) : Except Exit α := .error (program.exit (.fault fault))
  let words ← (classifyAll program.flags arguments).mapError fun fault => program.exit (.fault fault)
  let leading := words.takeWhile (·.2.isFlag)
  let (_, before) ← (walk program.flags Settings.set {} leading).mapError program.exit
  match words.drop leading.length with
  | [] | [(_, .separator)] => stop .missingCommand
  | (name, _) :: rest =>
    match known.find? (·.1 == name) with
    | none => stop (.unknownCommand name (known.map Prod.fst))
    | some (_, manual, command) =>
      let (settings, after) ← (manual.read (rest.map Prod.fst)).mapError manual.exit
      if before ++ after = [] then return command settings
      stop (.unrecognized (before ++ after))

end Command

end ApiScaffold
