import ApiScaffold.Package.Adapter
import ApiScaffold.Package.Contracts
import ApiScaffold.Package.Core

namespace ApiScaffold

inductive Target where
  | core
  | contracts
  | adapters
  deriving DecidableEq

def Target.name : Target → String
  | .core => "core"
  | .contracts => "contracts"
  | .adapters => "adapters"

structure Selection where
  core : Bool := false
  contracts : Bool := false
  adapters : Bool := false
  deriving DecidableEq

namespace Selection

def wants (s : Selection) : Target → Bool
  | .core => s.core
  | .contracts => s.contracts
  | .adapters => s.adapters

def targets (s : Selection) : List Target :=
  let all := [Target.core, .contracts, .adapters]
  if all.any s.wants then all.filter s.wants else all

end Selection

namespace Run

def unknownAdapters (config : Config) : List String := config.adapters.filter (!Profile.isBuiltin ·)

def generate (plan : Plan) : Target → List (Except BuildFault ArtifactSet)
  | .core => [CorePackage.generate plan]
  | .contracts => [ContractsPackage.generate plan]
  | .adapters => plan.config.adapters.map (AdapterPackage.generate plan)

def build (config : Config) (selection : Selection) : Except BuildFault (List ArtifactSet) :=
  (selection.targets.flatMap (generate (Plan.ofConfig config))).mapM id

end Run

end ApiScaffold
