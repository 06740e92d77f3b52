import ApiScaffold.Template.Adapter
import ApiScaffold.Template.Contracts
import ApiScaffold.Template.Core
import ApiScaffold.Template.Render
import ApiScaffold.Text.Split

namespace ApiScaffold.Template

def catalogue : List (List String × Template) := [
  (["adapter", "auth_bearer.ts.j2"], Adapter.bearerAuth),
  (["adapter", "auth_session.ts.j2"], Adapter.sessionAuth),
  (["adapter", "controller.ts.j2"], Adapter.controller),
  (["adapter", "errorHandler.ts.j2"], Adapter.errorHandler),
  (["adapter", "index.ts.j2"], Adapter.index),
  (["adapter", "offline.ts.j2"], Adapter.offline),
  (["adapter", "pagination_cursor.ts.j2"], Adapter.cursorPagination),
  (["adapter", "pagination_offset.ts.j2"], Adapter.offsetPagination),
  (["adapter", "request.ts.j2"], Adapter.request),
  (["adapter", "response_offline.ts.j2"], Adapter.offlineResponse),
  (["adapter", "response_plain.ts.j2"], Adapter.plainResponse),
  (["contracts", "index.ts.j2"], Contracts.index),
  (["contracts", "routes.ts.j2"], Contracts.routes),
  (["core", "DomainError.ts.j2"], Core.domainError),
  (["core", "IServices.ts.j2"], Core.services),
  (["core", "domain_use_cases_index.ts.j2"], Core.domainUseCasesIndex),
  (["core", "index.ts.j2"], Core.index),
  (["core", "model.ts.j2"], Core.model),
  (["core", "pagination.ts.j2"], Core.pagination),
  (["core", "ports_index.ts.j2"], Core.portsIndex),
  (["core", "repository.ts.j2"], Core.repository),
  (["core", "use_case_create.ts.j2"], Core.createUseCase),
  (["core", "use_case_get.ts.j2"], Core.getUseCase),
  (["core", "use_case_list.ts.j2"], Core.listUseCase),
  (["core", "use_cases_index.ts.j2"], Core.useCasesIndex)]

def segments (name : String) : List String :=
  ((Text.splitAt '/' name.toList).filter fun s => s != [] && s != ['.']).map String.ofList

def find? (root name : String) : Option Template :=
  if (segments name).contains ".." then none
  else (catalogue.find? (·.1 == segments root ++ segments name)).map (·.2)

def isFolder (place : List String) : Bool :=
  catalogue.any fun (entry, _) => place.isPrefixOf entry && place.length < entry.length

def enter (place : List String) : List String → Option (List String)
  | [] => some place
  | name :: rest =>
    if name = ".." then if place.isEmpty then none else enter place.dropLast rest
    else if isFolder (place ++ [name]) then enter (place ++ [name]) rest
    else none

def list (root below : String) : List String :=
  match (enter [] (segments root)).bind fun place => enter place (segments below) with
  | some place =>
    (catalogue.filter fun (entry, _) => place.isPrefixOf entry).map fun (entry, _) =>
      "/".intercalate (segments below ++ entry.drop place.length)
  | none => []

def renderNamed (root name : String) (context : List (String × Data)) : Except Fault String :=
  match find? root name with
  | some template => render template context
  | none => .error (.notFound name)

end ApiScaffold.Template
