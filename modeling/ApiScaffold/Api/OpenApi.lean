import ApiScaffold.Api.Route
import ApiScaffold.Api.Schema

namespace ApiScaffold.OpenApi

def jsonContent (schema : Data) : Data := .map [("application/json", .map [("schema", schema)])]

def pathParameter (name : String) : Data :=
  .map [
    ("name", .string name),
    ("in", .string "path"),
    ("required", .bool true),
    ("schema", .map [("type", .string "string"), ("format", .string "uuid")])]

def success (status description : String) (schema : Data) : Data :=
  .map [(status, .map [("description", .string description), ("content", jsonContent schema)])]

def operation (r : Route) : Data :=
  let d := r.domain
  .map (("operationId", .string r.operationId) :: match r.kind with
    | .list => [
      ("summary", .string ("List " ++ d.routeSegment)),
      ("responses", success "200" "Success" (Schema.listResponse d))]
    | .create => [
      ("summary", .string ("Create " ++ d.token)),
      ("requestBody", .map [
        ("required", .bool true),
        ("content", jsonContent (Schema.ref d.createRequestName))]),
      ("responses", success "201" "Created" (Schema.ref d.responseName))]
    | .get => [
      ("summary", .string ("Get " ++ d.token ++ " by ID")),
      ("parameters", .list (r.pathParams.map pathParameter)),
      ("responses", success "200" "Success" (Schema.ref d.responseName))])

abbrev PathItem := List (String × Data)

def addRoute (paths : List (String × PathItem)) (r : Route) : List (String × PathItem) :=
  Assoc.insert r.path (Assoc.insert r.method.key (operation r) ((Assoc.get? r.path paths).getD [])) paths

def paths (routes : List Route) : List (String × PathItem) := routes.foldl addRoute []

def document (version : String) (domains : List Domain) (routes : List Route) : Data :=
  .map [
    ("openapi", .string version),
    ("info", .map [
      ("title", .string "CoreBridge API"),
      ("version", .string "1.0.0"),
      ("description", .string "Platform-agnostic API")]),
    ("servers", .list [.map [("url", .string "/api/v1")]]),
    ("paths", .map ((paths routes).map fun (path, item) => (path, .map item))),
    ("components", .map [
      ("schemas", .map (Schema.components domains)),
      ("securitySchemes", .map [
        ("BearerAuth", .map [
          ("type", .string "http"),
          ("scheme", .string "bearer"),
          ("bearerFormat", .string "JWT")])])])]

end ApiScaffold.OpenApi
