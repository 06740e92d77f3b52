import ApiScaffold.Data.Basic

namespace ApiScaffold

structure Field where
  name : String
  jsonType : String
  format : Option String
  tsType : String
  graphqlType : String
  required : Bool

namespace Field

def format? (f : Field) : Option String := f.format.filter (· != "")

def property (f : Field) : Data :=
  .map (("type", .string f.jsonType) :: (f.format?.map fun x => ("format", Data.string x)).toList)

def graphql (f : Field) : String := f.graphqlType ++ if f.required then "!" else ""

def validator (f : Field) : String :=
  if f.format = some "uuid" then "z.string().uuid()"
  else if f.format = some "date-time" then "z.date()"
  else if f.required then "z.string().min(1)"
  else "z.string()"

def response (f : Field) : String :=
  "entity." ++ f.name ++ if f.format = some "date-time" then ".toISOString()" else ""

def model (f : Field) : Data :=
  .map [("name", .string f.name), ("zod", .string f.validator), ("ts_type", .string f.tsType),
    ("to_response", .string f.response)]

def entity : List Field := [
  ⟨"id", "string", some "uuid", "string", "ID", true⟩,
  ⟨"name", "string", none, "string", "String", false⟩,
  ⟨"createdAt", "string", some "date-time", "string", "String", true⟩,
  ⟨"updatedAt", "string", some "date-time", "string", "String", true⟩]

def creation : List Field := [⟨"name", "string", none, "string", "String", true⟩]

def names (fields : List Field) : Data := .strings (fields.map Field.name)

def properties (fields : List Field) : Data := .map (fields.map fun f => (f.name, f.property))

end Field

end ApiScaffold
