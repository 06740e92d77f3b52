import ApiScaffold.Api.Domain
import ApiScaffold.Api.Field

namespace ApiScaffold.Schema

def ref (name : String) : Data := .map [("$ref", .string ("#/components/schemas/" ++ name))]

def createRequest : Data :=
  .map [("type", .string "object"), ("required", Field.names Field.creation),
    ("properties", Field.properties Field.creation)]

def response : Data :=
  .map [("type", .string "object"), ("properties", Field.properties Field.entity)]

def listResponse (d : Descriptor) : Data :=
  .map [
    ("type", .string "object"),
    ("properties", .map [
      ("items", .map [("type", .string "array"), ("items", ref d.responseName)]),
      ("total", .map [("type", .string "integer")]),
      ("hasMore", .map [("type", .string "boolean")])])]

def components (domains : List Domain) : List (String × Data) :=
  Assoc.ofList (domains.flatMap fun d => [(d.createRequestName, createRequest), (d.responseName, response)])

def document (d : Domain) : Data :=
  .map [
    ("$schema", .string "https://json-schema.org/draft/2020-12/schema"),
    ("$id", .string ("https://corebridge.dev/schemas/" ++ d.capitalized)),
    ("title", .string d.capitalized),
    ("type", .string "object"),
    ("properties", Field.properties Field.entity),
    ("required", Field.names (Field.entity.filter Field.required))]

end ApiScaffold.Schema
