import ApiScaffold.Api.Field
import ApiScaffold.Api.Route

namespace ApiScaffold.GraphQl

def block (keyword name : String) (lines : List String) : String :=
  "\n".intercalate ((keyword ++ " " ++ name ++ " \x7b") :: lines ++ ["\x7d"])

def fieldLines (fields : List Field) : List String :=
  fields.map fun f => "  " ++ f.name ++ ": " ++ f.graphql

def domainBlocks (d : Domain) : List String := [
  block "type" d.responseName (fieldLines Field.entity),
  block "input" d.createRequestName (fieldLines Field.creation)]

def isQuery (r : Route) : Bool := r.kind != .create

def operationLine (r : Route) : String :=
  let response := r.domain.responseName
  match r.kind with
  | .list =>
    "  " ++ r.operationId ++ "(limit: Int, offset: Int, cursor: String): [" ++ response ++ "!]!"
  | .get =>
    "  " ++ r.operationId ++ "(" ++ ", ".intercalate (r.pathParams.map (· ++ ": ID!")) ++ "): " ++ response
  | .create =>
    "  " ++ r.operationId ++ "(input: " ++ r.domain.createRequestName ++ "!): " ++ response ++ "!"

def rootBlock (name : String) (routes : List Route) : List String :=
  if routes.isEmpty then [] else [block "type" name (routes.map operationLine)]

def schema (domains : List Domain) (routes : List Route) : String :=
  "\n\n".intercalate (domains.flatMap domainBlocks
    ++ rootBlock "Query" (routes.filter isQuery)
    ++ rootBlock "Mutation" (routes.filter (!isQuery ·))) ++ "\n"

end ApiScaffold.GraphQl
