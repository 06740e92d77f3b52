import ApiScaffold.Console.Message
import ApiScaffold.Numeric.Duration
import ApiScaffold.Run.Build

namespace ApiScaffold.Run

open Console (Message)

structure Report where
  packages : List String
  written : List Path
  elapsed : Binary64

def opening : List Message := [.header "CoreBridge Generation"]

def unknownWarning (adapterId : String) : Message :=
  .warning ("Unknown adapter '" ++ adapterId ++ "' -- generating " ++ PackageName.adapter adapterId
    ++ " with the web profile.")

def intention (config : Config) (selection : Selection) (outputDir : Location) : List Message :=
  let targets := selection.targets
  [.plain ("  Output  : " ++ outputDir.text),
    .plain ("  Targets : " ++ ", ".intercalate (targets.map Target.name)), .blank]
  ++ if targets.contains .adapters then (unknownAdapters config).map unknownWarning else []

def packageMessage (s : ArtifactSet) : Message :=
  .success ("  + " ++ s.package ++ " (" ++ toString s.size ++ " files)")

def listing (items : List String) : String :=
  let text := ", ".intercalate items
  if text = "" then "none" else text

def summary (config : Config) (r : Report) (duration : String) : List Message := [
  .table ⟨"Generation Summary", [
    ("Domains", listing config.domains), ("Adapters", listing config.adapters),
    ("Contract format", config.format.name), ("Packages", listing r.packages),
    ("Files written", toString r.written.length), ("Duration", duration)]⟩,
  .plain "[bold]Next steps:[/bold]",
  .plain "  1. Implement the repository ports in your infrastructure layer",
  .plain "  2. Wire the adapter routers into your server",
  .plain "  3. Run 'npm install' and 'npm run build' in each package"]

end ApiScaffold.Run
