import ApiScaffold.Api.GraphQl
import ApiScaffold.Api.OpenApi
import ApiScaffold.Package.Artifact
import ApiScaffold.Package.Manifest
import ApiScaffold.Package.Plan
import ApiScaffold.Template.Contracts
import ApiScaffold.Yaml.Printer

namespace ApiScaffold.ContractsPackage

def directories (format : ContractFormat) : List String :=
  ["dist", "openapi", "schemas"] ++ if format = .graphql then ["graphql"] else []

def manifest (format : ContractFormat) : Data :=
  .map (Manifest.head PackageName.contracts "OpenAPI specs and JSON Schemas" ++ [
    ("files", .strings (directories format)),
    Manifest.scripts,
    ("devDependencies", Manifest.names [("typescript", "^5.3.0")]),
    Manifest.license])

def errorCodes : List String :=
  ["VALIDATION_ERROR", "NOT_FOUND", "RESOURCE_EXISTS", "UNAUTHORIZED", "FORBIDDEN"]

def fieldData (f : Field) : Data := .map [("name", .string f.name), ("ts_type", .string f.tsType)]

def typesContext (domains : List Domain) : List (String × Data) := [
  ("domains", domainsData domains),
  ("fields", .list (Field.entity.map fieldData)),
  ("create_fields", .list (Field.creation.map fieldData)),
  ("error_codes", .strings errorCodes)]

def document (plan : Plan) : Data := OpenApi.document plan.config.version plan.domains plan.routes

def schema (d : Domain) : Draft :=
  .text ("schemas/" ++ d.capitalized ++ ".schema.json") (Json.dump (Schema.document d))

def graphql (plan : Plan) : List Draft :=
  if plan.config.format = .graphql then
    [.text "graphql/schema.graphql" (GraphQl.schema plan.domains plan.routes)]
  else []

def drafts (plan : Plan) : List Draft :=
  [.text "package.json" (Json.dump (manifest plan.config.format)),
    .text "tsconfig.json" (Json.dump Manifest.compilerSettings),
    .text "openapi/openapi.yaml" (Yaml.dump (document plan))]
  ++ plan.domains.map schema
  ++ [.ofTemplate "src/index.ts" Template.Contracts.index (typesContext plan.domains),
    .ofTemplate "src/routes.ts" Template.Contracts.routes [("routes", routesData plan.routes)]]
  ++ graphql plan

def generate (plan : Plan) : Except BuildFault ArtifactSet :=
  ArtifactSet.ofDrafts PackageName.contracts (drafts plan)

end ApiScaffold.ContractsPackage
