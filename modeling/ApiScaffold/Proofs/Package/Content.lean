import ApiScaffold.Proofs.Api.RouteTable
import ApiScaffold.Proofs.Package.Draft
import ApiScaffold.Proofs.Package.Shape

namespace ApiScaffold

open Template Text Chain

lemma Draft.rendered_ofTemplate {env : Env} {context : List (String × Data)}
    (h : Fits (.record env) (.map context)) (template : Template)
    (hcheck : (env.all (·.1 ≠ "self") && check false env template) = true) (path : String) :
    (Draft.ofTemplate path template context).Rendered :=
  (h.harmless_render hcheck).exists_ok

namespace Domain

variable {d : Domain} {r : Route}

lemma plain_of_isWord (h : isWord d.token.toList) : d.Plain :=
  ⟨notMem_of_isWord (by decide) h, notMem_of_isWord (by decide) h⟩

lemma pathParams_getRoute_ne_nil (h : isWord d.token.toList) : d.getRoute.pathParams ≠ [] := by
  rw [pathParams_getRoute (plain_of_isWord h)]
  exact List.cons_ne_nil _ _

lemma isWord_operationId (h : isWord d.token.toList) (hr : r ∈ d.routes) : isWord r.operationId.toList := by
  have hcap := isWord_capitalized h
  rcases eq_of_mem_routes hr with rfl | rfl | rfl
  · exact isWord_concat (by decide) (isWord_concat hcap (by decide))
  · exact isWord_concat (by decide) hcap
  · exact isWord_concat (by decide) hcap

lemma path_cases (hr : r ∈ d.routes) : r.path = d.collectionPath ∨ r = d.getRoute := by
  rcases eq_of_mem_routes hr with rfl | rfl | rfl
  · exact .inl rfl
  · exact .inl rfl
  · exact .inr rfl

lemma relativePath_eq (h : isWord d.token.toList) (hr : r ∈ d.routes) :
    r.relativePath = if r = d.getRoute then "/:" ++ d.pathParam else "/" := by
  rcases eq_of_mem_routes hr with rfl | rfl | rfl
  · rw [relativePath_collection rfl rfl, if_neg (by simp [listRoute, getRoute])]
  · rw [relativePath_collection rfl rfl, if_neg (by simp [createRoute, getRoute])]
  · rw [relativePath_getRoute (plain_of_isWord h), if_pos rfl]

lemma pathParams_eq (h : isWord d.token.toList) (hr : r ∈ d.routes) :
    r.pathParams = if r = d.getRoute then [d.pathParam] else [] := by
  rcases eq_of_mem_routes hr with rfl | rfl | rfl
  · rw [pathParams_collection (plain_of_isWord h) rfl, if_neg (by simp [listRoute, getRoute])]
  · rw [pathParams_collection (plain_of_isWord h) rfl, if_neg (by simp [createRoute, getRoute])]
  · rw [pathParams_getRoute (plain_of_isWord h), if_pos rfl]

lemma notMem_path {c : Char} (hc : isWordChar c = false) (hplace : c ∉ ['/', '\x7b', '\x7d'])
    (h : isWord d.token.toList) (hr : r ∈ d.routes) : c ∉ r.path.toList := by
  have hword (x : Char) (hx : isWordChar x) : c ≠ x := by
    rintro rfl
    rw [hx] at hc
    cases hc
  have htoken := notMem_of_isWord hc h
  have hs := hword 's' (by decide)
  have hI := hword 'I' (by decide)
  have hd := hword 'd' (by decide)
  simp only [List.mem_cons, List.not_mem_nil, or_false, not_or] at hplace
  rcases path_cases hr with hpath | rfl
  · simp [hpath, collectionPath_eq, routeSegment, hplace, htoken, hs]
  · simp [getRoute, itemPath_eq, routeSegment, pathParam, hplace, htoken, hs, hI, hd]

lemma fits_route {words : Bool} (h : words → isWord d.token.toList) (hr : r ∈ d.routes) {kind : Shape}
    (hkind : Fits kind (.string r.kind.name)) :
    Fits (Route.shape words kind (.list (nameShape words))) r.toData := by
  refine Route.fits_toData (fun hw => notMem_path (by decide) (by decide) (h hw) hr)
    (fun hw => isWord_operationId (h hw) hr)
    hkind (fun hw => ?_) (fits_strings fun s hs => fits_name fun hw => ?_)
  · rw [relativePath_eq (h hw) hr]
    split
    · simp [notMem_of_isWord (c := '\n') (by decide) (isWord_pathParam (h hw))]
    · decide
  · rw [pathParams_eq (h hw) hr] at hs
    split at hs
    · rw [List.mem_singleton.mp hs]
      exact isWord_pathParam (h hw)
    · cases hs

end Domain

namespace Plan

lemma forall_domains_ofConfig {config : Config} {p : String → Prop} (h : ∀ token ∈ config.domains, p token) :
    ∀ d ∈ (ofConfig config).domains, p d.token := List.forall_mem_map.mpr h

lemma capitalized_ofConfig (config : Config) :
    (ofConfig config).domains.map Domain.capitalized = config.domains.map capitalize := List.map_map

lemma fits_domainsData {words : Bool} {domains : List Domain}
    (h : ∀ d ∈ domains, words → isWord d.token.toList) :
    Fits (.list (Domain.shape words)) (domainsData domains) :=
  fits_list_map fun d hd => Domain.fits_toData (h d hd)

lemma fits_route (r : Route) : Fits (Route.shape false .text (.list .text)) r.toData :=
  Route.fits_toData nofun nofun (.text _) nofun (fits_strings fun s _ => .text s)

lemma fits_domain (d : Domain) : Fits (Domain.shape false) d.toData := Domain.fits_toData nofun

end Plan

end ApiScaffold
