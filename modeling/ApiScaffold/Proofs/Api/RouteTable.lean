import ApiScaffold.Api.Route
import ApiScaffold.Proofs.Api.PathTemplate
import ApiScaffold.Proofs.Assoc
import ApiScaffold.Proofs.Except
import ApiScaffold.Proofs.FirstOccurrence
import Mathlib.Data.List.Nodup

namespace ApiScaffold

open PathTemplate

namespace Domain

variable {d : Domain} {r : Route}

structure Plain (d : Domain) : Prop where
  opening : '\x7b' ∉ d.token.toList
  closing : '\x7d' ∉ d.token.toList

lemma eq_of_mem_routes (h : r ∈ d.routes) : r = d.listRoute ∨ r = d.createRoute ∨ r = d.getRoute := by
  simpa [routes] using h

lemma listRoute_mem (d : Domain) : d.listRoute ∈ d.routes := by simp [routes]

lemma createRoute_mem (d : Domain) : d.createRoute ∈ d.routes := by simp [routes]

lemma getRoute_mem (d : Domain) : d.getRoute ∈ d.routes := by simp [routes]

lemma domain_of_mem_routes (h : r ∈ d.routes) : r.domain = d.descriptor := by
  rcases eq_of_mem_routes h with rfl | rfl | rfl <;> rfl

lemma mountPath_of_mem_routes (h : r ∈ d.routes) : r.mountPath = d.collectionPath := by
  rw [Route.mountPath, domain_of_mem_routes h, descriptor_collectionPath]

lemma toList_itemPath (d : Domain) :
    d.itemPath.toList = d.collectionPath.toList ++ '/' :: '\x7b' :: (d.pathParam.toList ++ ['\x7d']) := by
  simp [itemPath_eq, collectionPath_eq]

lemma pieces_itemPath (h : d.Plain) :
    pieces ('/' :: '\x7b' :: (d.pathParam.toList ++ ['\x7d'])) =
      [.literal '/', .param d.pathParam.toList] := by
  have hne : d.pathParam.toList ≠ [] := by simp [pathParam]
  have hclosing : '\x7d' ∉ d.pathParam.toList := by simp [pathParam, h.closing]
  rw [pieces_literal (by decide), pieces_param hne hclosing, pieces_nil]

lemma pathParams_getRoute (h : d.Plain) : d.getRoute.pathParams = [d.pathParam] := by
  have hopening : '\x7b' ∉ d.collectionPath.toList := by simp [collectionPath_eq, routeSegment, h.opening]
  rw [Route.pathParams, params, getRoute, toList_itemPath, pieces_append hopening, pieces_itemPath h,
    List.filterMap_append, List.filterMap_map]
  simp

lemma pathParams_collection (h : d.Plain) (hr : r.path = d.collectionPath) : r.pathParams = [] := by
  have hopening : '\x7b' ∉ d.collectionPath.toList := by simp [collectionPath_eq, routeSegment, h.opening]
  rw [Route.pathParams, params, hr, pieces_of_notMem hopening, List.filterMap_map]
  simp

lemma pathParams_getRoute_eq_nil_iff :
    d.getRoute.pathParams = [] ↔ d.token.toList.head? = some '\x7d' ∧ closesAtOnce d.token.toList := by
  have hlast : d.itemPath.toList.getLast? = some '\x7d' := by
    rw [itemPath_eq, String.toList_append]
    exact List.getLast?_concat
  have hpath : d.itemPath.toList = ('/' :: d.token.toList) ++ 's' :: '/' :: '\x7b' ::
      (d.token.toList ++ ['I', 'd', '\x7d']) := by
    simp [itemPath_eq, routeSegment, pathParam]
  rw [Route.pathParams, getRoute, params_eq_nil_iff hlast, hpath, closesAtOnce_append (by decide)]
  simp only [closesAtOnce, closesAtOnce_append (c := 'I') (by decide)]
  cases d.token.toList with
  | nil => simp
  | cons c rest => simp

lemma relativePath_collection (hr : r.path = d.collectionPath) (hd : r.domain = d.descriptor) :
    r.relativePath = "/" := by
  simp [Route.relativePath, below, Route.mountPath, hr, hd, ← String.length_toList]

lemma relativePath_getRoute (h : d.Plain) : d.getRoute.relativePath = "/:" ++ d.pathParam := by
  have hdrop : d.getRoute.path.toList.drop d.getRoute.mountPath.length =
      '/' :: '\x7b' :: (d.pathParam.toList ++ ['\x7d']) := by
    rw [mountPath_of_mem_routes d.getRoute_mem, getRoute, ← String.length_toList,
      toList_itemPath, List.drop_left]
  rw [Route.relativePath, below, hdrop, inRouter, pieces_itemPath h]
  simp [Piece.inRouter, ← String.toList_inj]

end Domain

namespace RouteTable

variable {ds : List Domain} {d : Domain} {r : Route}

lemma mem_ofDomains : r ∈ ofDomains ds ↔ ∃ d ∈ ds, r ∈ d.routes := List.mem_flatMap

lemma mem_routesFor : r ∈ routesFor d (ofDomains ds) ↔ d ∈ ds ∧ r ∈ d.routes := by
  rw [routesFor, List.mem_filter, mem_ofDomains]
  constructor
  · rintro ⟨⟨e, he, hr⟩, hd⟩
    obtain rfl : e = d :=
      Domain.descriptor_inj.mp (by rw [← Domain.domain_of_mem_routes hr, of_decide_eq_true hd])
    exact ⟨he, hr⟩
  · rintro ⟨hd, hr⟩
    exact ⟨⟨d, hd, hr⟩, decide_eq_true (Domain.domain_of_mem_routes hr)⟩

lemma routesFor_append (d : Domain) (xs ys : List Route) :
    routesFor d (xs ++ ys) = routesFor d xs ++ routesFor d ys :=
  List.filter_append ..

lemma routesFor_routes_of_ne {e : Domain} (h : e ≠ d) : routesFor d e.routes = [] := by
  simp [routesFor, Domain.routes, Domain.listRoute, Domain.createRoute, Domain.getRoute, h]

lemma routesFor_routes (d : Domain) : routesFor d d.routes = d.routes := by
  simp [routesFor, Domain.routes, Domain.listRoute, Domain.createRoute, Domain.getRoute]

lemma routesFor_ofDomains_eq (d : Domain) (ds : List Domain) :
    routesFor d (ofDomains ds) = (List.replicate (ds.count d) d.routes).flatten := by
  induction ds with
  | nil => rfl
  | cons e rest ih =>
    rw [ofDomains, List.flatMap_cons, routesFor_append]
    by_cases he : e = d
    · subst he
      rw [routesFor_routes, List.count_cons_self, List.replicate_succ, List.flatten_cons, ← ih]
      rfl
    · rw [routesFor_routes_of_ne he, List.nil_append, List.count_cons_of_ne he, ← ih]
      rfl

lemma routesFor_ofDomains (hn : ds.Nodup) (hd : d ∈ ds) : routesFor d (ofDomains ds) = d.routes := by
  rw [routesFor_ofDomains_eq, List.count_eq_one_of_mem hn hd, List.replicate_one, List.flatten_singleton]

lemma any_key {found : List (String × Descriptor)} {path : String} :
    found.any (·.1 = path) ↔ path ∈ found.map Prod.fst := by
  simp [List.any_eq_true]

lemma keys_addOwner (found : List (String × Descriptor)) (r : Route) :
    (addOwner found r).map Prod.fst = addNew (found.map Prod.fst) r.mountPath := by
  rw [addOwner, addNew]
  by_cases hr : r.mountPath ∈ found.map Prod.fst
  · rw [if_pos (any_key.mpr hr), if_pos hr]
  · rw [if_neg (mt any_key.mp hr), if_neg hr, List.map_append]
    rfl

lemma keys_foldl_addOwner (found : List (String × Descriptor)) (routes : List Route) :
    (routes.foldl addOwner found).map Prod.fst =
      (routes.map Route.mountPath).foldl addNew (found.map Prod.fst) := by
  induction routes generalizing found with
  | nil => rfl
  | cons r rest ih => rw [List.foldl_cons, ih, keys_addOwner, List.map_cons, List.foldl_cons]

lemma mountPaths_eq (routes : List Route) : mountPaths routes = (routes.map Route.mountPath).eraseDups := by
  rw [← foldl_addNew_nil, List.foldl_map]
  rfl

lemma keys_owners (routes : List Route) : (owners routes).map Prod.fst = mountPaths routes := by
  rw [mountPaths_eq, ← foldl_addNew_nil]
  exact keys_foldl_addOwner [] routes

lemma nodup_keys_owners (routes : List Route) : ((owners routes).map Prod.fst).Nodup := by
  rw [keys_owners, mountPaths_eq]
  exact nodup_eraseDups _

lemma mounts_eq (routes : List Route) : mounts routes = .ok (owners routes) := by
  have hentry : ∀ mount ∈ owners routes, mountAt (owners routes) mount.1 = .ok mount := fun mount hmount => by
    rw [mountAt, Assoc.get?_of_mem (nodup_keys_owners routes) hmount]
  rw [mounts, ← keys_owners, List.mapM_map]
  exact (Chain.mapM_eq_pure hentry).trans (congrArg Except.ok (List.map_id _))

lemma mem_foldl_addOwner {routes : List Route} {found : List (String × Descriptor)}
    {mount : String × Descriptor} (h : mount ∈ routes.foldl addOwner found) :
    mount ∈ found ∨ ∃ r ∈ routes, mount = (r.mountPath, r.domain) := by
  induction routes generalizing found with
  | nil => exact .inl h
  | cons r rest ih =>
    rcases ih h with hfound | ⟨q, hq, hmount⟩
    · unfold addOwner at hfound
      split at hfound
      · exact .inl hfound
      · rcases List.mem_append.mp hfound with hfound | hnew
        · exact .inl hfound
        · exact .inr ⟨r, List.mem_cons_self, List.mem_singleton.mp hnew⟩
    · exact .inr ⟨q, List.mem_cons_of_mem r hq, hmount⟩

lemma exists_of_mem_owners {routes : List Route} {mount : String × Descriptor} (h : mount ∈ owners routes) :
    ∃ r ∈ routes, mount = (r.mountPath, r.domain) :=
  (mem_foldl_addOwner h).resolve_left List.not_mem_nil

def mountOf (d : Domain) : String × Descriptor := (d.collectionPath, d)

lemma addOwner_of_mem {pre : List Domain} (h : d ∈ pre) (hr : r ∈ d.routes) :
    addOwner (pre.map mountOf) r = pre.map mountOf := by
  refine if_pos (List.any_eq_true.mpr ⟨mountOf d, List.mem_map_of_mem h, ?_⟩)
  simp [mountOf, Domain.mountPath_of_mem_routes hr]

lemma addOwner_of_notMem {pre : List Domain} (h : d ∉ pre) (hr : r ∈ d.routes) :
    addOwner (pre.map mountOf) r = (pre ++ [d]).map mountOf := by
  rw [addOwner, if_neg]
  · simp [mountOf, Domain.mountPath_of_mem_routes hr, Domain.domain_of_mem_routes hr]
  · intro hany
    obtain ⟨mount, hmount, hpath⟩ := List.any_eq_true.mp hany
    obtain ⟨e, he, rfl⟩ := List.mem_map.mp hmount
    have hpath : e.collectionPath = d.collectionPath :=
      (of_decide_eq_true hpath).trans (Domain.mountPath_of_mem_routes hr)
    exact h (Domain.collectionPath_inj.mp hpath ▸ he)

lemma foldl_addOwner (pre : List Domain) (d : Domain) :
    d.routes.foldl addOwner (pre.map mountOf) = (addNew pre d).map mountOf := by
  rw [Domain.routes, List.foldl_cons, List.foldl_cons, List.foldl_cons, List.foldl_nil]
  by_cases hd : d ∈ pre
  · rw [addOwner_of_mem hd d.listRoute_mem, addOwner_of_mem hd d.createRoute_mem,
      addOwner_of_mem hd d.getRoute_mem, addNew, if_pos hd]
  · have hmem : d ∈ pre ++ [d] := List.mem_append_right _ List.mem_cons_self
    rw [addOwner_of_notMem hd d.listRoute_mem, addOwner_of_mem hmem d.createRoute_mem,
      addOwner_of_mem hmem d.getRoute_mem, addNew, if_neg hd]

lemma owners_ofDomains_eq (ds : List Domain) : owners (ofDomains ds) = ds.eraseDups.map mountOf :=
  foldl_groups (List.map mountOf) (fun pre d _ => foldl_addOwner pre d) ds

lemma owners_ofDomains (hn : ds.Nodup) : owners (ofDomains ds) = ds.map mountOf := by
  rw [owners_ofDomains_eq, eraseDups_of_nodup hn]

end RouteTable

end ApiScaffold
