import ApiScaffold.Data.Basic
import ApiScaffold.FileTree.Path

namespace ApiScaffold

inductive ContractFormat where
  | openapi
  | graphql
  deriving DecidableEq

def ContractFormat.name : ContractFormat → String
  | .openapi => "openapi"
  | .graphql => "graphql"

def ContractFormat.ofName? (name : String) : Option ContractFormat :=
  [openapi, graphql].find? (·.name == name)

structure Config where
  domains : List String := ["user", "project"]
  adapters : List String := ["web", "mobile"]
  format : ContractFormat := .openapi
  version : String := "3.1.0"
  outputDir : Path := ⟨.relative, ["packages"]⟩
  deriving DecidableEq

namespace Config

def default : Config := {}

def toData (c : Config) : Data :=
  .map [
    ("$schema", .string "https://corebridge.dev/schema/config.json"),
    ("outputDir", .string c.outputDir.text),
    ("domains", .strings c.domains),
    ("adapters", .strings c.adapters),
    ("contracts", .map [("format", .string c.format.name), ("version", .string c.version)])]

end Config

end ApiScaffold
