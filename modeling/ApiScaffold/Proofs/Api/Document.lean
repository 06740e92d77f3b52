import ApiScaffold.Api.OpenApi
import ApiScaffold.Proofs.Api.Source
import ApiScaffold.Proofs.Assoc
import ApiScaffold.Proofs.FirstOccurrence

/-!
The paths of the OpenAPI document. Grouped by path, the routes of distinct domains keep their order: the
two of the collection are neighbours in the table.
-/

namespace ApiScaffold

open Text Chain

namespace Domain

variable {d e : Domain}

lemma itemPath_inj : d.itemPath = e.itemPath ↔ d = e := by
  refine ⟨fun h => ?_, fun h => h ▸ rfl⟩
  obtain ⟨s⟩ := d
  obtain ⟨t⟩ := e
  have hlist := congrArg String.toList h
  simp only [itemPath_eq, routeSegment, pathParam, String.toList_append, List.append_assoc] at hlist
  have hlength := congrArg List.length hlist
  simp only [List.length_append] at hlength
  have hst := (List.append_inj (List.append_cancel_left hlist) (by omega)).1
  rw [String.toList_inj.mp hst]

lemma collectionPath_ne_itemPath : d.collectionPath ≠ e.itemPath := by
  intro heq
  have hlast := congrArg (fun s : String => s.toList.getLast?) heq
  simp [collectionPath_eq, routeSegment, itemPath_eq, List.getLast?_cons] at hlast

end Domain

namespace OpenApi

variable {ds : List Domain} {d : Domain}

def grouped (d : Domain) : List (String × List Route) :=
  [(d.collectionPath, [d.listRoute, d.createRoute]), (d.itemPath, [d.getRoute])]

def pathItem (group : String × List Route) : String × PathItem :=
  (group.1, group.2.map fun r => (r.method.key, operation r))

lemma path_of_mem_grouped {group : String × List Route} (hg : group ∈ grouped d) {r : Route}
    (hr : r ∈ group.2) :
    r.path = group.1 := by
  rw [grouped, List.mem_cons, List.mem_singleton] at hg
  rcases hg with rfl | rfl
  · rw [List.mem_cons, List.mem_singleton] at hr
    rcases hr with rfl | rfl <;> rfl
  · rw [List.mem_singleton.mp hr]
    rfl

lemma flatMap_grouped (d : Domain) : (grouped d).flatMap Prod.snd = d.routes := rfl

def items (ds : List Domain) : List (String × PathItem) := (ds.flatMap grouped).map pathItem

lemma items_append (ds es : List Domain) : items (ds ++ es) = items ds ++ items es := by
  rw [items, List.flatMap_append, List.map_append, items, items]

lemma keys_items (ds : List Domain) : (items ds).map Prod.fst = ds.flatMap fun d =>
    [d.collectionPath, d.itemPath] := by
  simp [items, List.map_flatMap, grouped, pathItem]

lemma collectionPath_mem_items : d.collectionPath ∈ (items ds).map Prod.fst ↔ d ∈ ds := by
  simp [keys_items, Domain.collectionPath_inj, Domain.collectionPath_ne_itemPath]

lemma itemPath_mem_items : d.itemPath ∈ (items ds).map Prod.fst ↔ d ∈ ds := by
  simp [keys_items, Domain.itemPath_inj, Domain.collectionPath_ne_itemPath.symm]

lemma nodup_items (hn : ds.Nodup) : ((items ds).map Prod.fst).Nodup := by
  rw [keys_items, List.nodup_flatMap]
  refine ⟨fun d _ => by simp [Domain.collectionPath_ne_itemPath], hn.imp fun {d e} hne => ?_⟩
  simp [Domain.collectionPath_inj, Domain.itemPath_inj, Domain.collectionPath_ne_itemPath,
    Domain.collectionPath_ne_itemPath.symm, hne.symm]

lemma foldl_addRoute_of_notMem (h : d ∉ ds) : d.routes.foldl addRoute (items ds) = items (ds ++ [d]) := by
  have hcollection : d.collectionPath ∉ (items ds).map Prod.fst := mt collectionPath_mem_items.mp h
  have hitem : d.itemPath ∉ (items ds).map Prod.fst := mt itemPath_mem_items.mp h
  have hlist : addRoute (items ds) d.listRoute =
      items ds ++ [(d.collectionPath, [("get", operation d.listRoute)])] := by
    rw [addRoute, Domain.listRoute, Assoc.get?_of_notMem hcollection, Assoc.insert_of_notMem hcollection]
    rfl
  have hcreate : addRoute (items ds ++ [(d.collectionPath, [("get", operation d.listRoute)])]) d.createRoute =
      items ds ++
        [(d.collectionPath, [("get", operation d.listRoute), ("post", operation d.createRoute)])] := by
    rw [addRoute, Domain.createRoute, Assoc.get?_append_of_notMem hcollection,
      Assoc.insert_append_of_notMem hcollection]
    simp [Assoc.get?, Assoc.insert, Method.key]
  have hget (item : PathItem) : addRoute (items ds ++ [(d.collectionPath, item)]) d.getRoute =
      items ds ++ [(d.collectionPath, item)] ++ [(d.itemPath, [("get", operation d.getRoute)])] := by
    have hnew : d.itemPath ∉ (items ds ++ [(d.collectionPath, item)]).map Prod.fst := by
      simp only [List.map_append, List.mem_append, not_or]
      exact ⟨hitem, by simpa using Domain.collectionPath_ne_itemPath.symm⟩
    rw [addRoute, Domain.getRoute, Assoc.get?_of_notMem hnew, Assoc.insert_of_notMem hnew]
    rfl
  simp only [Domain.routes, List.foldl_cons, List.foldl_nil]
  rw [hlist, hcreate, hget, List.append_assoc, items_append]
  rfl

lemma addRoute_eq_self {paths : List (String × PathItem)} {item : PathItem} {r : Route}
    (hitem : Assoc.get? r.path paths = some item) (hop : Assoc.get? r.method.key item = some (operation r)) :
    addRoute paths r = paths := by
  rw [addRoute, hitem, Option.getD_some, Assoc.insert_of_get? hop, Assoc.insert_of_get? hitem]

lemma foldl_addRoute_of_mem (hn : ds.Nodup) (h : d ∈ ds) : d.routes.foldl addRoute (items ds) = items ds := by
  have hget {group : String × List Route} (hgroup : group ∈ grouped d) :
      Assoc.get? group.1 (items ds) = some (pathItem group).2 :=
    Assoc.get?_of_mem (nodup_items hn) (List.mem_map_of_mem (List.mem_flatMap.mpr ⟨d, h, hgroup⟩))
  have hcollection := hget (List.mem_cons_self : _ ∈ grouped d)
  have hitem := hget (List.mem_cons_of_mem _ List.mem_cons_self : _ ∈ grouped d)
  have hlist : addRoute (items ds) d.listRoute = items ds := addRoute_eq_self hcollection rfl
  have hcreate : addRoute (items ds) d.createRoute = items ds := addRoute_eq_self hcollection rfl
  have hgetRoute : addRoute (items ds) d.getRoute = items ds := addRoute_eq_self hitem rfl
  simp only [Domain.routes, List.foldl_cons, List.foldl_nil, hlist, hcreate, hgetRoute]

lemma paths_ofDomains (ds : List Domain) : paths (RouteTable.ofDomains ds) = items ds.eraseDups := by
  refine foldl_groups items (fun found d hn => ?_) ds
  unfold addNew
  split
  · exact foldl_addRoute_of_mem hn (by assumption)
  · exact foldl_addRoute_of_notMem (by assumption)

lemma ofDomains_eq (ds : List Domain) : RouteTable.ofDomains ds = (ds.flatMap grouped).flatMap Prod.snd := by
  simp only [RouteTable.ofDomains, List.flatMap_assoc, flatMap_grouped]

lemma readOperation_operation (r : Route) :
    Surface.readOperation r.path (r.method.key, operation r) = some r.endpoint := by
  have hop : (operation r).get? "operationId" = some (.string r.operationId) := rfl
  have hmethod : Surface.methodOfKey? r.method.key.toList = some r.method := by
    cases r.method <;> decide
  rw [Surface.readOperation, hop, hmethod]
  rfl

lemma ofDocument_eq (hn : ds.Nodup) (version : String) :
    Surface.ofDocument (document version ds (RouteTable.ofDomains ds)) =
      some ((RouteTable.ofDomains ds).map Route.endpoint) := by
  have hpaths : (document version ds (RouteTable.ofDomains ds)).get? "paths" =
      some (.map ((paths (RouteTable.ofDomains ds)).map fun entry => (entry.1, .map entry.2))) := rfl
  have hread :
      ((paths (RouteTable.ofDomains ds)).map fun entry => (entry.1, Data.map entry.2)).mapM
        Surface.readPathItem =
      some ((ds.flatMap grouped).map fun group => group.2.map Route.endpoint) := by
    rw [paths_ofDomains, eraseDups_of_nodup hn, items, List.map_map, List.mapM_map]
    refine mapM_some fun group hgroup => ?_
    obtain ⟨d, -, hgroup⟩ := List.mem_flatMap.mp hgroup
    have hitem : (group.2.map fun r => (r.method.key, operation r)).mapM (Surface.readOperation group.1) =
        some (group.2.map Route.endpoint) := by
      rw [List.mapM_map]
      exact mapM_some fun r hr => path_of_mem_grouped hgroup hr ▸ readOperation_operation r
    exact hitem
  have hroutes : ((ds.flatMap grouped).map fun group => group.2.map Route.endpoint).flatten =
      (RouteTable.ofDomains ds).map Route.endpoint := by
    rw [ofDomains_eq]
    exact List.map_flatMap.symm
  rw [Surface.ofDocument, hpaths]
  simp only [hread, Option.map_some, hroutes]

def listing (paths : List (String × PathItem)) : List (String × String × Data) :=
  paths.flatMap fun (path, item) => item.map fun (method, operation) => (path, method, operation)

lemma listing_paths (ds : List Domain) : listing (paths (RouteTable.ofDomains ds)) =
    (RouteTable.ofDomains ds.eraseDups).map fun r => (r.path, r.method.key, operation r) := by
  rw [paths_ofDomains, ofDomains_eq, listing, items, List.flatMap_map, List.map_flatMap]
  refine List.flatMap_congr fun group hgroup => ?_
  obtain ⟨d, -, hgroup⟩ := List.mem_flatMap.mp hgroup
  simp only [pathItem, List.map_map]
  exact List.map_congr_left fun r hr => by simp only [Function.comp_apply, path_of_mem_grouped hgroup hr]

/--
Grouping by path keeps every operation once, whatever the tokens are: those of a repeated token
stand where it first occurs.
-/
theorem operations_of_tokens (tokens : List String) (version : String) :
    let domains := tokens.map Domain.mk
    let routes := RouteTable.ofDomains domains
    let distinct := RouteTable.ofDomains (tokens.eraseDups.map Domain.mk)
    listing (paths routes) = distinct.map (fun r => (r.path, r.method.key, operation r)) ∧
    (listing (paths routes)).length = 3 * tokens.eraseDups.length ∧
    (tokens.Nodup → (Surface.ofDocument (document version domains routes)).map (·.map Endpoint.operationId) =
      some (RouteTable.operationIds routes)) ∧
    ∀ d e : Domain, d.collectionPath ≠ e.itemPath ∧ (d ≠ e → d.collectionPath ≠ e.collectionPath) := by
  intro domains routes distinct
  have hdomains : domains.eraseDups = tokens.eraseDups.map Domain.mk :=
    eraseDups_map (fun _ _ => congrArg Domain.token) tokens
  have hlisting : listing (paths routes) = distinct.map fun r => (r.path, r.method.key, operation r) := by
    rw [listing_paths, hdomains]
  refine ⟨hlisting, ?_, fun hn => ?_,
    fun d e => ⟨Domain.collectionPath_ne_itemPath, mt Domain.collectionPath_inj.mp⟩⟩
  · rw [hlisting, List.length_map, RouteTable.length_ofDomains, List.length_map]
  · have hdistinct : domains.Nodup := hn.map fun _ _ => congrArg Domain.token
    rw [ofDocument_eq hdistinct, Option.map_some, List.map_map]
    rfl

theorem operations_of_tokens_nested :
    let tokens := ["a", "as/\x7baId\x7d"]
    let domains := tokens.map Domain.mk
    tokens.Nodup ∧
    (Surface.ofDocument (document "3.1.0" domains (RouteTable.ofDomains domains))).map
      (·.map Endpoint.operationId) =
        some ["listAs", "createA", "getA", "listAs/\x7baId\x7ds", "createAs/\x7baId\x7d",
        "getAs/\x7baId\x7d"] := by
  have hn : ["a", "as/\x7baId\x7d"].Nodup := by decide
  have hids : RouteTable.operationIds (RouteTable.ofDomains (["a", "as/\x7baId\x7d"].map Domain.mk)) =
      ["listAs", "createA", "getA", "listAs/\x7baId\x7ds", "createAs/\x7baId\x7d", "getAs/\x7baId\x7d"] := by
      decide
  have h := (operations_of_tokens ["a", "as/\x7baId\x7d"] "3.1.0").2.2.1 hn
  rw [hids] at h
  exact ⟨hn, h⟩

end OpenApi

end ApiScaffold
