import ApiScaffold.Api.Domain
import ApiScaffold.Api.PathTemplate
import ApiScaffold.Data.Display

/-!
The route table: three routes for each domain, list, create and get in this order. Every description
of the interface is a projection of it.
-/

namespace ApiScaffold

inductive Method where
  | get
  | post
  deriving DecidableEq

inductive RouteKind where
  | list
  | create
  | get
  deriving DecidableEq

def Method.name : Method → String
  | .get => "GET"
  | .post => "POST"

def Method.key : Method → String
  | .get => "get"
  | .post => "post"

def RouteKind.name : RouteKind → String
  | .list => "list"
  | .create => "create"
  | .get => "get"

inductive RouteFault where
  | unknownMethod (name : String)
  | unknownKind (name : String)

def RouteFault.message : RouteFault → String
  | .unknownMethod name => Text.quoted name ++ " is not a valid HTTPMethod"
  | .unknownKind name => Text.quoted name ++ " is not a valid RouteKind"

def Method.ofName (name : String) : Except RouteFault Method :=
  match [Method.get, .post].find? (·.name == name) with
  | some method => .ok method
  | none => .error (.unknownMethod name)

def RouteKind.ofName (name : String) : Except RouteFault RouteKind :=
  match [RouteKind.list, .create, .get].find? (·.name == name) with
  | some kind => .ok kind
  | none => .error (.unknownKind name)

structure Route where
  method : Method
  path : String
  operationId : String
  domain : Descriptor
  kind : RouteKind
  deriving DecidableEq

namespace Route

variable (r : Route)

def mountPath : String := r.domain.collectionPath

def relativePath : String := PathTemplate.below r.mountPath r.path

def pathParams : List String := PathTemplate.params r.path

def isMutation : Bool := r.method != .get

def useCaseModule : String := Text.capitalize r.operationId

end Route

namespace Domain

def listRoute (d : Domain) : Route where
  method := .get
  path := d.collectionPath
  operationId := "list" ++ d.pluralCapitalized
  domain := d
  kind := .list

def createRoute (d : Domain) : Route where
  method := .post
  path := d.collectionPath
  operationId := "create" ++ d.capitalized
  domain := d
  kind := .create

def getRoute (d : Domain) : Route where
  method := .get
  path := d.itemPath
  operationId := "get" ++ d.capitalized
  domain := d
  kind := .get

def routes (d : Domain) : List Route := [d.listRoute, d.createRoute, d.getRoute]

end Domain

namespace RouteTable

def ofDomains (domains : List Domain) : List Route := domains.flatMap Domain.routes

@[simp] theorem length_ofDomains (domains : List Domain) :
    (ofDomains domains).length = 3 * domains.length := by
  induction domains with
  | nil => rfl
  | cons d rest ih => simp [ofDomains, Domain.routes] at ih ⊢; omega

def routesFor (domain : Domain) (routes : List Route) : List Route :=
  routes.filter (·.domain = domain.descriptor)

def operationIds (routes : List Route) : List String := routes.map Route.operationId

def addMountPath (seen : List String) (r : Route) : List String :=
  if r.mountPath ∈ seen then seen else seen ++ [r.mountPath]

def mountPaths (routes : List Route) : List String := routes.foldl addMountPath []

def addOwner (found : List (String × Descriptor)) (r : Route) : List (String × Descriptor) :=
  if found.any (·.1 = r.mountPath) then found else found ++ [(r.mountPath, r.domain)]

def owners (routes : List Route) : List (String × Descriptor) := routes.foldl addOwner []

def mountAt (found : List (String × Descriptor)) (path : String) :
    Except Data.MissingKey (String × Descriptor) :=
  match Assoc.get? path found with
  | some domain => .ok (path, domain)
  | none => .error ⟨path⟩

def mounts (routes : List Route) : Except Data.MissingKey (List (String × Descriptor)) :=
  (mountPaths routes).mapM (mountAt (owners routes))

theorem any_addOwner {found : List (String × Descriptor)} {seen : List String}
    (h : ∀ path, found.any (·.1 = path) = decide (path ∈ seen)) (r : Route) (path : String) :
    (addOwner found r).any (·.1 = path) = decide (path ∈ addMountPath seen r) := by
  by_cases hr : r.mountPath ∈ seen <;> simp [addOwner, addMountPath, h, hr, @eq_comm _ path]

theorem any_owners (path : String) (routes : List Route) :
    (owners routes).any (·.1 = path) = decide (path ∈ mountPaths routes) := by
  suffices h : ∀ (found : List (String × Descriptor)) (seen : List String),
      (∀ path, found.any (·.1 = path) = decide (path ∈ seen)) →
      ∀ path, (routes.foldl addOwner found).any (·.1 = path) =
        decide (path ∈ routes.foldl addMountPath seen) from
    h [] [] (by simp) path
  induction routes with
  | nil => exact fun _ _ h => h
  | cons r rest ih => exact fun _ _ h => ih _ _ (any_addOwner h r)

theorem mountAt_owners {path : String} {routes : List Route} (h : path ∈ mountPaths routes) :
    ∃ mount, mountAt (owners routes) path = .ok mount := by
  have hsome : (Assoc.get? path (owners routes)).isSome := by
    rw [Assoc.isSome_get?, any_owners, decide_eq_true h]
  obtain ⟨d, hd⟩ := Option.isSome_iff_exists.mp hsome
  exact ⟨(path, d), by rw [mountAt, hd]⟩

theorem exists_mounts (routes : List Route) : ∃ found, mounts routes = .ok found := by
  suffices h : ∀ paths : List String, (∀ path ∈ paths, path ∈ mountPaths routes) →
      ∃ found, paths.mapM (mountAt (owners routes)) = .ok found from h _ fun _ => id
  intro paths h
  induction paths with
  | nil => exact ⟨[], rfl⟩
  | cons path rest ih =>
    obtain ⟨mount, hmount⟩ := mountAt_owners (h path List.mem_cons_self)
    obtain ⟨found, hfound⟩ := ih fun p hp => h p (List.mem_cons_of_mem path hp)
    exact ⟨mount :: found, by rw [List.mapM_cons, hmount, hfound]; rfl⟩

theorem mounts_ne_error (routes : List Route) (e : Data.MissingKey) : mounts routes ≠ .error e := by
  obtain ⟨found, hfound⟩ := exists_mounts routes
  simp [hfound]

end RouteTable

end ApiScaffold
