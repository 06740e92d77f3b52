import ApiScaffold.Package.Plan
import ApiScaffold.Proofs.Api.Document
import ApiScaffold.Proofs.Except
import Mathlib.Data.List.Count

namespace ApiScaffold.RouteTable

open Chain

variable {routes : List Route} {d e : Domain} {r s : Route} {path : String}

lemma path_ne_of_mem_routes (h : d ≠ e) (hr : r ∈ d.routes) (hs : s ∈ e.routes) : r.path ≠ s.path := by
  have hcollections : d.collectionPath ≠ e.collectionPath := mt Domain.collectionPath_inj.mp h
  have hitems : d.itemPath ≠ e.itemPath := mt Domain.itemPath_inj.mp h
  rcases Domain.eq_of_mem_routes hr with rfl | rfl | rfl <;>
    rcases Domain.eq_of_mem_routes hs with rfl | rfl | rfl
  all_goals first
    | exact hcollections
    | exact hitems
    | exact Domain.collectionPath_ne_itemPath
    | exact Domain.collectionPath_ne_itemPath.symm

lemma flatMap_routesFor {ds : List Domain} (hn : ds.Nodup) :
    ds.flatMap (routesFor · (ofDomains ds)) = ofDomains ds :=
  List.flatMap_congr fun _ hd => routesFor_ofDomains hn hd

/--
A token has its three routes, once for each time it is given, and they are not those of another
token that is capitalized alike. Distinct tokens divide the table among them, in its order.
-/
theorem routes_by_token (tokens : List String) :
    let table := ofDomains (tokens.map Domain.mk)
    (∀ token, routesFor ⟨token⟩ table =
      (List.replicate (tokens.count token) (Domain.mk token).routes).flatten) ∧
    (∀ token other, token ≠ other → ∀ r ∈ routesFor ⟨token⟩ table, ∀ s ∈ routesFor ⟨other⟩ table,
      r.path ≠ s.path) ∧
    table.length = 3 * tokens.length ∧
    (tokens.Nodup → (tokens.map Domain.mk).flatMap (routesFor · table) = table) := by
  intro table
  have hinjective : Function.Injective Domain.mk := fun _ _ => congrArg Domain.token
  refine ⟨fun token => ?_, fun token other hne r hr s hs => ?_, ?_,
    fun hn => flatMap_routesFor (hn.map hinjective)⟩
  · rw [routesFor_ofDomains_eq, List.count_map_of_injective _ _ hinjective]
  · exact path_ne_of_mem_routes (mt (congrArg Domain.token) hne) (mem_routesFor.mp hr).2
      (mem_routesFor.mp hs).2
  · rw [length_ofDomains, List.length_map]

theorem routes_by_token_user :
    let tokens := ["user", "User"]
    let table := ofDomains (tokens.map Domain.mk)
    let user := (Domain.mk "user").getRoute
    let other := (Domain.mk "User").getRoute
    user.operationId = other.operationId ∧ "user" ≠ "User" ∧ user ∈ routesFor ⟨"user"⟩ table ∧
    other ∈ routesFor ⟨"User"⟩ table ∧ user.path ≠ other.path ∧ tokens.Nodup ∧
    (tokens.map Domain.mk).flatMap (routesFor · table) = table := by
  intro tokens table user other
  obtain ⟨-, hpaths, -, hparts⟩ := routes_by_token tokens
  have hne : "user" ≠ "User" := by decide
  have huser : user ∈ routesFor ⟨"user"⟩ table := by decide
  have hother : other ∈ routesFor ⟨"User"⟩ table := by decide
  have hn : tokens.Nodup := by decide
  exact ⟨by decide, hne, huser, hother, hpaths _ _ hne _ huser _ hother, hn, hparts hn⟩

lemma get?_addOwner (found : List (String × Descriptor)) (r : Route) : Assoc.get? path (addOwner found r) =
    (Assoc.get? path found).or (if r.mountPath = path then some r.domain else none) := by
  rw [addOwner]
  split
  · rename_i hfound
    split
    · rename_i hpath
      have hsome : Assoc.get? path found ≠ none := by
        rw [Ne, Assoc.get?_eq_none_iff, not_not, ← hpath]
        exact any_key.mp hfound
      rw [Option.or_of_isSome (Option.isSome_iff_ne_none.mpr hsome)]
    · rw [Option.or_none]
  · rw [Assoc.get?_append]
    rfl

-- Induction on the routes: an owner that was found stays, so that the first route below a path decides.
lemma get?_foldl_addOwner (found : List (String × Descriptor)) (routes : List Route) :
    Assoc.get? path (routes.foldl addOwner found) =
      (Assoc.get? path found).or ((routes.find? (·.mountPath = path)).map Route.domain) := by
  induction routes generalizing found with
  | nil => simp
  | cons r rest ih =>
    rw [List.foldl_cons, ih, get?_addOwner, Option.or_assoc, List.find?_cons]
    by_cases hr : r.mountPath = path <;> simp [hr]

lemma get?_owners (path : String) (routes : List Route) :
    Assoc.get? path (owners routes) = (routes.find? (·.mountPath = path)).map Route.domain :=
  get?_foldl_addOwner [] routes

lemma mem_mountPaths : path ∈ mountPaths routes ↔ ∃ r ∈ routes, r.mountPath = path := by
  rw [mountPaths_eq, List.mem_eraseDups, List.mem_map]

lemma find?_of_mem_owners {mount : String × Descriptor} (h : mount ∈ owners routes) :
    ∃ r, routes.find? (·.mountPath = mount.1) = some r ∧ mount.2 = r.domain := by
  have hd : Assoc.get? mount.1 (owners routes) = some mount.2 :=
    Assoc.get?_of_mem (nodup_keys_owners routes) h
  obtain ⟨r, hr, hdomain⟩ := Option.map_eq_some_iff.mp (get?_owners mount.1 routes ▸ hd)
  exact ⟨r, hr, hdomain.symm⟩

/--
Every path that occurs is mounted once, where it first occurs, with the domain of the first route
below it, whatever domains the routes carry: the owner of none is missing. The mounts of a plan are
its distinct domains, each below its own path.
-/
theorem mounts_of_first_routes (routes : List Route) (config : Config) :
    mountPaths routes = (routes.map Route.mountPath).eraseDups ∧ (mountPaths routes).Nodup ∧
    (∀ path, path ∈ mountPaths routes ↔ ∃ r ∈ routes, r.mountPath = path) ∧
    (∃ found, mounts routes = .ok found ∧ found.map Prod.fst = mountPaths routes ∧
      ∀ mount ∈ found, ∃ r, routes.find? (·.mountPath = mount.1) = some r ∧ mount.2 = r.domain) ∧
    mounts (Plan.ofConfig config).routes =
      .ok ((config.domains.eraseDups.map Domain.mk).map fun d => (d.collectionPath, d.descriptor)) := by
  refine ⟨mountPaths_eq routes, mountPaths_eq routes ▸ nodup_eraseDups _, fun path => mem_mountPaths,
    ⟨owners routes, mounts_eq routes, keys_owners routes, fun mount hmount => find?_of_mem_owners hmount⟩, ?_⟩
  have hinjective : Function.Injective Domain.mk := fun _ _ => congrArg Domain.token
  rw [mounts_eq, Plan.ofConfig, owners_ofDomains_eq, eraseDups_map hinjective]
  rfl

/-- Two domains below one path: the first is mounted there. -/
example :
    let user : Descriptor := ⟨"user", "User", "people", "id"⟩
    let guest : Descriptor := ⟨"guest", "Guest", "people", "name"⟩
    mounts [⟨.get, "/people", "listUsers", user, .list⟩, ⟨.get, "/people", "listGuests", guest, .list⟩] =
      .ok [("/people", user)] := by
  rfl

end ApiScaffold.RouteTable
