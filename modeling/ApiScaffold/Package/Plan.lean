import ApiScaffold.Api.Route
import ApiScaffold.Config.Basic

namespace ApiScaffold

structure Plan where
  config : Config
  domains : List Domain
  routes : List Route

namespace Plan

def ofConfig (config : Config) : Plan :=
  let domains := config.domains.map Domain.mk
  ⟨config, domains, RouteTable.ofDomains domains⟩

def routesFor (plan : Plan) (d : Domain) : List Route := RouteTable.routesFor d plan.routes

end Plan

def Descriptor.toData (d : Descriptor) : Data :=
  .map [
    ("token", .string d.token), ("capitalized", .string d.capitalized), ("path_param", .string d.pathParam),
    ("repository_name", .string d.repositoryName), ("router_name", .string d.routerName),
    ("controller_name", .string d.controllerName), ("collection_path", .string d.collectionPath)]

def Domain.toData (d : Domain) : Data := d.descriptor.toData

def Route.toData (r : Route) : Data :=
  .map [
    ("method", .map [("value", .string r.method.name)]), ("path", .string r.path),
    ("operation_id", .string r.operationId), ("kind", .map [("value", .string r.kind.name)]),
    ("relative_path", .string r.relativePath), ("path_params", .strings r.pathParams)]

def domainsData (domains : List Domain) : Data := .list (domains.map Domain.toData)

def routesData (routes : List Route) : Data := .list (routes.map Route.toData)

end ApiScaffold
