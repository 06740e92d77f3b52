import ApiScaffold.Api.Field
import ApiScaffold.Package.Artifact
import ApiScaffold.Package.Manifest
import ApiScaffold.Package.Plan
import ApiScaffold.Platform.Pagination
import ApiScaffold.Template.Core

namespace ApiScaffold.CorePackage

def manifest : Data :=
  .map (Manifest.head PackageName.core "Platform-agnostic business logic core" ++ [
    Manifest.scripts,
    ("dependencies", Manifest.names [("zod", "^3.22.4")]),
    ("devDependencies", Manifest.names [("typescript", "^5.3.0"), ("@types/node", "^20.10.0")]),
    Manifest.license])

def domainError (name code : String) (status : Nat) : Data :=
  .map [("name", .string name), ("code", .string code), ("status", .int status)]

def domainErrors : Data :=
  .list [
    domainError "ValidationError" "VALIDATION_ERROR" 400,
    domainError "NotFoundError" "NOT_FOUND" 404,
    domainError "ConflictError" "RESOURCE_EXISTS" 409,
    domainError "UnauthorizedError" "UNAUTHORIZED" 401,
    domainError "ForbiddenError" "FORBIDDEN" 403]

def modelContext (d : Domain) : List (String × Data) := [
  ("domain", d.toData),
  ("fields", .list (Field.entity.map Field.model)),
  ("create_fields", .list (Field.creation.map Field.model))]

def useCaseTemplate : RouteKind → Template
  | .list => Template.Core.listUseCase
  | .create => Template.Core.createUseCase
  | .get => Template.Core.getUseCase

def useCaseContext (d : Domain) (r : Route) : List (String × Data) := [
  ("domain", d.toData),
  ("route", r.toData),
  ("default_limit", .int Pagination.defaultLimit),
  ("max_limit", .int Pagination.maxLimit)]

def useCaseDirectory (d : Domain) : String := "src/use-cases/" ++ d.token ++ "/"

def useCase (d : Domain) (r : Route) : Draft :=
  .ofTemplate (useCaseDirectory d ++ r.useCaseModule ++ ".ts") (useCaseTemplate r.kind) (useCaseContext d r)

def model (d : Domain) : Draft :=
  .ofTemplate ("src/domain/models/" ++ d.capitalized ++ ".ts") Template.Core.model (modelContext d)

def repository (d : Domain) : Draft :=
  .ofTemplate ("src/ports/" ++ d.repositoryName ++ ".ts") Template.Core.repository [("domain", d.toData)]

def useCases (plan : Plan) (d : Domain) : List Draft :=
  let routes := plan.routesFor d
  .ofTemplate (useCaseDirectory d ++ "index.ts") Template.Core.domainUseCasesIndex
    [("routes", routesData routes)]
    :: routes.map (useCase d)

def drafts (plan : Plan) : List Draft :=
  let domains := [("domains", domainsData plan.domains)]
  [.text "package.json" (Json.dump manifest),
    .text "tsconfig.json" (Json.dump Manifest.compilerSettings),
    .ofTemplate "src/index.ts" Template.Core.index domains]
  ++ plan.domains.map model
  ++ [.ofTemplate "src/domain/errors/DomainError.ts" Template.Core.domainError [("errors", domainErrors)],
    .ofTemplate "src/ports/index.ts" Template.Core.portsIndex domains,
    .ofTemplate "src/ports/pagination.ts" Template.Core.pagination [],
    .ofTemplate "src/ports/IServices.ts" Template.Core.services []]
  ++ plan.domains.map repository
  ++ [.ofTemplate "src/use-cases/index.ts" Template.Core.useCasesIndex domains]
  ++ plan.domains.flatMap (useCases plan)

def generate (plan : Plan) : Except BuildFault ArtifactSet :=
  ArtifactSet.ofDrafts PackageName.core (drafts plan)

end ApiScaffold.CorePackage
