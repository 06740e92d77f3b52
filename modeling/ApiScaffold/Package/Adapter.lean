import ApiScaffold.Package.Artifact
import ApiScaffold.Package.Manifest
import ApiScaffold.Package.Plan
import ApiScaffold.Platform.Credential
import ApiScaffold.Platform.Offline
import ApiScaffold.Platform.Pagination
import ApiScaffold.Template.Adapter

namespace ApiScaffold.AdapterPackage

def manifest (adapterId : String) (profile : Profile) : Data :=
  let session := profile.auth = .session
  .map (Manifest.head (PackageName.adapter adapterId)
      (Text.capitalize adapterId ++ " platform adapter for CoreBridge") ++ [
    Manifest.scripts,
    ("dependencies", Manifest.names ([
      (PackageName.inRegistry PackageName.core, "^0.1.0"),
      (PackageName.inRegistry PackageName.contracts, "^0.1.0"),
      ("express", "^4.18.2")] ++ if session then [("cookie-parser", "^1.4.6")] else [])),
    ("devDependencies", Manifest.names ([
      ("typescript", "^5.3.0"),
      ("@types/node", "^20.10.0"),
      ("@types/express", "^4.17.21")] ++ if session then [("@types/cookie-parser", "^1.4.6")] else [])),
    Manifest.license])

def mounts (plan : Plan) : List (String × Descriptor) :=
  match h : RouteTable.mounts plan.routes with
  | .ok found => found
  | .error e => absurd h (RouteTable.mounts_ne_error plan.routes e)

def mountData (mount : String × Descriptor) : Data :=
  .map [("path", .string mount.1), ("domain", mount.2.toData)]

def policyData (policy : Offline.Policy) : Data :=
  .map [("cacheable", .bool policy.cacheable), ("ttl", .int policy.ttl),
    ("queueable", .bool policy.queueable)]

def context (plan : Plan) (adapterId : String) (profile : Profile) : List (String × Data) := [
  ("adapter_id", .string adapterId),
  ("adapter_title", .string (Text.capitalize adapterId)),
  ("router_factory", .string (PackageName.routerFactory adapterId)),
  ("domains", domainsData plan.domains),
  ("mounts", .list ((mounts plan).map mountData)),
  ("extension_modules", .strings (profile.extensions.map Extension.name)),
  ("session", .bool (profile.auth = .session)),
  ("cursor", .bool (profile.pagination = .cursor)),
  ("offline", .bool (profile.envelope = .offlineWrapped)),
  ("cache_policy", .map ((Offline.policies plan.routes).map fun (id, policy) => (id, policyData policy))),
  ("session_cookie", .string Credential.sessionCookie),
  ("bearer_prefix", .string Credential.bearerPrefix),
  ("unauthorized", Manifest.names Credential.unauthorized),
  ("default_limit", .int Pagination.defaultLimit),
  ("max_limit", .int Pagination.maxLimit)]

def handlerData (r : Route) : Data :=
  .map [("route", r.toData), ("deps_type", .string (r.useCaseModule ++ "Deps"))]

def controllerContext (plan : Plan) (d : Domain) : List (String × Data) := [
  ("domain", d.toData),
  ("handlers", .list ((plan.routesFor d).map handlerData)),
  ("request_type", .string d.createRequestName)]

def authTemplate : AuthScheme → Template
  | .session => Template.Adapter.sessionAuth
  | .bearer => Template.Adapter.bearerAuth

def responseTemplate : Envelope → Template
  | .plain => Template.Adapter.plainResponse
  | .offlineWrapped => Template.Adapter.offlineResponse

def paginationTemplate : PaginationStyle → Template
  | .cursor => Template.Adapter.cursorPagination
  | .offset => Template.Adapter.offsetPagination

def controller (plan : Plan) (base : List (String × Data)) (d : Domain) : Draft :=
  .ofTemplate ("src/controllers/" ++ d.controllerName ++ ".ts") Template.Adapter.controller
    (controllerContext plan d ++ base)

def drafts (plan : Plan) (adapterId : String) (profile : Profile) : List Draft :=
  let base := context plan adapterId profile
  [.text "package.json" (Json.dump (manifest adapterId profile)),
    .text "tsconfig.json" (Json.dump Manifest.compilerSettings),
    .ofTemplate "src/middleware/auth.ts" (authTemplate profile.auth) base,
    .ofTemplate "src/middleware/errorHandler.ts" Template.Adapter.errorHandler base,
    .ofTemplate "src/transformers/request.ts" Template.Adapter.request base,
    .ofTemplate "src/transformers/response.ts" (responseTemplate profile.envelope) base,
    .ofTemplate "src/extensions/pagination.ts" (paginationTemplate profile.pagination) base]
  ++ (if profile.offline then [.ofTemplate "src/extensions/offline.ts" Template.Adapter.offline base] else [])
  ++ plan.domains.map (controller plan base)
  ++ [.ofTemplate "src/index.ts" Template.Adapter.index base]

def generate (plan : Plan) (adapterId : String) : Except BuildFault ArtifactSet :=
  ArtifactSet.ofDrafts (PackageName.adapter adapterId) (drafts plan adapterId (Profile.resolve adapterId))

end ApiScaffold.AdapterPackage
