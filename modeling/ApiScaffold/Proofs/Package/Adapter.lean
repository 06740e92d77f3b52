import ApiScaffold.Package.Adapter
import ApiScaffold.Proofs.Assoc
import ApiScaffold.Proofs.Api.RouteTable
import ApiScaffold.Proofs.Package.Content
import ApiScaffold.Proofs.Package.Paths
import ApiScaffold.Proofs.Template.Render

namespace ApiScaffold

open Template Chain

namespace AdapterPackage

open Plan

def env (id words : Bool) : Env := [
  ("adapter_id", nameShape id), ("adapter_title", nameShape id), ("router_factory", nameShape id),
  ("domains", .list (Domain.shape words)),
  ("mounts", .list (.record [("path", placeShape words), ("domain", Domain.shape words)])),
  ("extension_modules", .list .word), ("session", .any), ("cursor", .any), ("offline", .any),
  ("cache_policy",
    .table (nameShape words) (.record [("cacheable", .any), ("ttl", .number), ("queueable", .any)])),
  ("session_cookie", .word), ("bearer_prefix", .any),
  ("unauthorized", .record [("code", .any), ("message", .any)]), ("default_limit", .number),
    ("max_limit", .number)]

def handlerShape (words : Bool) (kind params : Shape) : Shape :=
  .record [("route", Route.shape words kind params), ("deps_type", nameShape words)]

def completeHandler : Shape :=
  .oneOf [handlerShape false (.constant "list") (.list .text),
    handlerShape false (.constant "create") (.list .text),
    handlerShape false (.constant "get") (.nonempty .text)]

def controllerEnv (id words : Bool) (handler : Shape) : Env :=
  [("domain", Domain.shape words), ("handlers", .list handler), ("request_type", nameShape words)] ++
    env id words

section

variable (id words : Bool) {plan : Plan} (adapterId : String)

lemma mounts_eq (plan : Plan) : mounts plan = RouteTable.owners plan.routes := by
  unfold mounts
  split
  · rename_i found hfound
    exact Except.ok.inj (hfound.symm.trans (RouteTable.mounts_eq plan.routes))
  · rename_i e he
    exact absurd he (RouteTable.mounts_ne_error plan.routes e)

lemma fits_mounts (hd : ∀ d ∈ plan.domains, words → Text.isWord d.token.toList)
    (hr : plan.routes = RouteTable.ofDomains plan.domains) :
    Fits (.list (.record [("path", placeShape words), ("domain", Domain.shape words)]))
      (.list ((mounts plan).map mountData)) := by
  rw [mounts_eq]
  refine fits_list_map fun mount hmount => ?_
  obtain ⟨r, hmem, rfl⟩ := RouteTable.exists_of_mem_owners hmount
  obtain ⟨d, hdomain, hroute⟩ := RouteTable.mem_ofDomains.mp (hr ▸ hmem)
  rw [Domain.mountPath_of_mem_routes hroute, Domain.domain_of_mem_routes hroute]
  exact .field (fits_place fun hw => Domain.notMem_collectionPath (hd _ hdomain hw)) <|
    .field (Domain.fits_toData (hd _ hdomain)) .empty

lemma exists_of_mem_policies {routes : List Route} {entry : String × Offline.Policy}
    (h : entry ∈ Offline.policies routes) :
    ∃ r ∈ routes, r.operationId = entry.1 := by
  have hkey := Assoc.mem_keys_ofList.mp (List.mem_map_of_mem (f := Prod.fst) h)
  simpa using hkey

lemma fits_context (hid : id → Text.isWord adapterId.toList)
    (hd : ∀ d ∈ plan.domains, words → Text.isWord d.token.toList)
    (hr : plan.routes = RouteTable.ofDomains plan.domains) (profile : Profile) :
    Fits (.record (env id words)) (.map (context plan adapterId profile)) := by
  have hfactory (hw : id) : Text.isWord (PackageName.routerFactory adapterId).toList :=
    Text.isWord_concat (Text.isWord_concat (by decide) (Text.isWord_capitalize (hid hw))) (by decide)
  have hextension (e : Extension) : Text.isWord e.name.toList := by
    cases e <;> decide
  have hpolicy (p : Offline.Policy) := Fits.field (n := "cacheable") (.any (.bool p.cacheable)) <|
    .field (n := "ttl") (.number p.ttl) <| .field (n := "queueable") (.any (.bool p.queueable)) .empty
  refine .field (fits_name hid) <| .field (fits_name fun hw => Text.isWord_capitalize (hid hw)) <|
    .field (fits_name hfactory) <| .field (Plan.fits_domainsData hd) <| .field (fits_mounts words hd hr) <|
    .field (fits_strings ?_) <| .field (.any _) <| .field (.any _) <| .field (.any _) <| .field
      (.table ?_ ?_) <|
    .field (.word (by decide)) <| .field (.any _) <| .field (.field (.any _) <| .field (.any _) .empty) <|
    .field (.number _) <| .field (.number _) .empty
  · intro name hname
    obtain ⟨e, -, rfl⟩ := List.mem_map.mp hname
    exact .word (hextension e)
  · intro entry hentry
    obtain ⟨⟨operation, policy⟩, hmem, rfl⟩ := List.mem_map.mp hentry
    obtain ⟨r, hroute, rfl⟩ := exists_of_mem_policies hmem
    obtain ⟨d, hdomain, hroute⟩ := RouteTable.mem_ofDomains.mp (hr ▸ hroute)
    exact fits_name fun hw => Domain.isWord_operationId (hd d hdomain hw) hroute
  · intro entry hentry
    obtain ⟨⟨operation, policy⟩, -, rfl⟩ := List.mem_map.mp hentry
    exact hpolicy policy

lemma fits_controllerContext (hid : id → Text.isWord adapterId.toList)
    (hd : ∀ d ∈ plan.domains, words → Text.isWord d.token.toList)
    (hr : plan.routes = RouteTable.ofDomains plan.domains) (profile : Profile) {d : Domain}
    (hmem : d ∈ plan.domains) {handler : Shape} (hhandler : ∀ r ∈ d.routes, Fits handler (handlerData r)) :
    Fits (.record (controllerEnv id words handler))
      (.map (controllerContext plan d ++ context plan adapterId profile)) := by
  refine .append (.field (Domain.fits_toData (hd d hmem)) <| .field (fits_list_map fun r hroute => ?_) <|
    .field (fits_name fun hw => Domain.isWord_createRequestName (hd d hmem hw)) .empty)
      (fits_context id words adapterId hid hd hr profile)
  rw [Plan.routesFor, hr] at hroute
  exact hhandler r (RouteTable.mem_routesFor.mp hroute).2

end

def leading (plan : Plan) (adapterId : String) (profile : Profile) : List Draft :=
  let base := context plan adapterId profile
  [.text "package.json" (Json.dump (manifest adapterId profile)),
    .text "tsconfig.json" (Json.dump Manifest.compilerSettings),
    .ofTemplate "src/middleware/auth.ts" (authTemplate profile.auth) base,
    .ofTemplate "src/middleware/errorHandler.ts" Template.Adapter.errorHandler base,
    .ofTemplate "src/transformers/request.ts" Template.Adapter.request base,
    .ofTemplate "src/transformers/response.ts" (responseTemplate profile.envelope) base,
    .ofTemplate "src/extensions/pagination.ts" (paginationTemplate profile.pagination) base]
  ++ if profile.offline then [.ofTemplate "src/extensions/offline.ts" Template.Adapter.offline base] else []

def controllers (plan : Plan) (adapterId : String) (profile : Profile) (domains : List Domain) : List Draft :=
  domains.map (controller plan (context plan adapterId profile))

def index (plan : Plan) (adapterId : String) (profile : Profile) : Draft :=
  .ofTemplate "src/index.ts" Template.Adapter.index (context plan adapterId profile)

lemma drafts_eq (plan : Plan) (adapterId : String) (profile : Profile) : drafts plan adapterId profile =
    leading plan adapterId profile ++ controllers plan adapterId profile plan.domains ++
      [index plan adapterId profile] :=
  rfl

variable {plan : Plan} (hr : plan.routes = RouteTable.ofDomains plan.domains) (adapterId : String)
    (profile : Profile)
  {d : Domain}

lemma fits_handler {kind params : Shape} {r : Route} (hkind : Fits kind (.string r.kind.name))
    (hparams : Fits params (.strings r.pathParams)) : Fits (handlerShape false kind params) (handlerData r) :=
  .field (Route.fits_toData nofun nofun hkind nofun hparams) <| .field (.text _) .empty

lemma fits_completeHandler (hparams : d.getRoute.pathParams ≠ []) {r : Route} (hroute : r ∈ d.routes) :
    Fits completeHandler (handlerData r) := by
  have hstrings (params : List String) : Fits (.list .text) (.strings params) :=
    fits_strings fun s _ => .text s
  rcases Domain.eq_of_mem_routes hroute with rfl | rfl | rfl
  · exact .option (.head _) (fits_handler (.constant _) (hstrings _))
  · exact .option (.tail _ (.head _)) (fits_handler (.constant _) (hstrings _))
  · refine .option (.tail _ (.tail _ (.head _)))
      (fits_handler (.constant _) (.nonempty (by simpa using hparams) ?_))
    intro v hv
    obtain ⟨s, -, rfl⟩ := List.mem_map.mp hv
    exact .text s

include hr

lemma rendered_controller (hd : d ∈ plan.domains) (hparams : d.getRoute.pathParams ≠ []) :
    (controller plan (context plan adapterId profile) d).Rendered := by
  have hfits := fits_controllerContext false false adapterId nofun nofun hr profile hd fun r =>
    fits_completeHandler hparams
  exact Draft.rendered_ofTemplate hfits _ (by cbv) _

lemma harmless_controller (hd : d ∈ plan.domains) :
    Harmless true (controller plan (context plan adapterId profile) d).content := by
  have hfits := fits_controllerContext false false adapterId nofun nofun hr profile hd fun r _ =>
    fits_handler (.text _) (fits_strings fun s _ => .text s)
  exact hfits.harmless_render (by cbv)

lemma rendered_leading : ∀ draft ∈ leading plan adapterId profile, draft.Rendered := by
  have hfits := fits_context false false adapterId nofun nofun hr profile
  have hbase := Draft.rendered_ofTemplate hfits
  have hoffline : ∀ draft ∈ (if profile.offline then [Draft.ofTemplate "src/extensions/offline.ts"
      Template.Adapter.offline (context plan adapterId profile)] else []), draft.Rendered := by
    intro draft hdraft
    split at hdraft
    · rw [List.mem_singleton.mp hdraft]
      exact hbase _ (by cbv) _
    · cases hdraft
  simp only [leading, List.forall_mem_append, List.forall_mem_cons]
  refine ⟨⟨Draft.rendered_text .., Draft.rendered_text .., ?_, hbase _ (by cbv) _, hbase _ (by cbv) _, ?_, ?_,
    List.forall_mem_nil _⟩, hoffline⟩
  · cases profile.auth <;> exact hbase _ (by cbv) _
  · cases profile.envelope <;> exact hbase _ (by cbv) _
  · cases profile.pagination <;> exact hbase _ (by cbv) _

lemma rendered_index : (index plan adapterId profile).Rendered :=
  Draft.rendered_ofTemplate (fits_context false false adapterId nofun nofun hr profile) _ (by cbv) _

omit hr in
lemma exists_first_param : ∃ body rest listing creating getting after more,
    Template.Adapter.controller.drop 30 =
      .forEach "handler" (var "handlers") (.assign "route" (.path "handler" ["route"]) ::
      .assign "op" (.path "route" ["operation_id"]) :: body) [] :: rest ∧
    body.drop 16 = .when (.equals (.path "route" ["kind", "value"]) "list") listing
      [.when (.equals (.path "route" ["kind", "value"]) "create") creating getting] :: after ∧
    getting.drop 3 = .print (.first (.path "route" ["path_params"])) :: more ∧
    (Template.Adapter.controller.take 30).all (!·.binds) ∧ (body.take 16).all (!·.binds) ∧
    (getting.take 3).all (!·.binds) :=
  ⟨_, _, _, _, _, _, _, rfl, rfl, rfl, rfl, rfl, rfl⟩

omit hr in
lemma not_renders_handler {scope : Scope} {body listing creating getting after more : List Node}
    {text : String} (hbody : body.drop 16 = .when (.equals (.path "route" ["kind", "value"]) "list") listing
      [.when (.equals (.path "route" ["kind", "value"]) "create") creating getting] :: after)
    (hgetting : getting.drop 3 = .print (.first (.path "route" ["path_params"])) :: more)
    (hbegin : (body.take 16).all (!·.binds)) (hfirst : (getting.take 3).all (!·.binds))
    (hparams : d.getRoute.pathParams = []) :
    renderNodes (scope.bind "handler" (handlerData d.getRoute))
      (.assign "route" (.path "handler" ["route"]) ::
      .assign "op" (.path "route" ["operation_id"]) :: body) ≠ .ok text := by
  intro ht
  simp only [renderNodes] at ht
  obtain ⟨route, hroute, ht⟩ := bind_eq_ok.mp ht
  cases hroute
  obtain ⟨op, hop, ht⟩ := bind_eq_ok.mp ht
  cases hop
  rw [← List.take_append_drop 16 body, hbody] at ht
  obtain ⟨t, ht⟩ := exists_of_renderNodes_append hbegin ht
  obtain ⟨t, ht⟩ := exists_of_when (b := false) rfl ht
  obtain ⟨t, ht⟩ := exists_of_when (b := false) rfl ht
  rw [if_neg Bool.false_ne_true, ← List.take_append_drop 3 getting, hgetting] at ht
  obtain ⟨t, ht⟩ := exists_of_renderNodes_append hfirst ht
  rw [renderNodes] at ht
  obtain ⟨v, hv, -⟩ := bind_eq_ok.mp ht
  rw [Expr.data_first] at hv
  obtain ⟨params, hv', hv⟩ := bind_eq_ok.mp hv
  cases hv'
  rw [hparams] at hv
  cases hv

lemma not_rendered_controller (hd : d ∈ plan.domains) (hparams : d.getRoute.pathParams = []) :
    ¬ (controller plan (context plan adapterId profile) d).Rendered := by
  rintro ⟨text, htext⟩
  obtain ⟨body, rest, listing, creating, getting, after, more, hloop, hbody, hgetting, hbefore,
    hbegin, hfirst⟩ :=
    exists_first_param
  have hfits := fits_controllerContext false false adapterId nofun nofun hr profile hd fun r _ =>
    fits_handler (.text _) (fits_strings fun s _ => .text s)
  have hroute : handlerData d.getRoute ∈ (plan.routesFor d).map handlerData := by
    rw [Plan.routesFor, hr]
    exact List.mem_map_of_mem (RouteTable.mem_routesFor.mpr ⟨hd, by simp [Domain.routes]⟩)
  rw [controller, Draft.ofTemplate, hfits.render (by decide),
    ← List.take_append_drop 30 Template.Adapter.controller, hloop] at htext
  obtain ⟨t, ht⟩ := exists_of_renderNodes_append hbefore htext
  have hhandlers :
      (var "handlers").data (.ofContext (controllerContext plan d ++ context plan adapterId profile)) =
      .ok (.list ((plan.routesFor d).map handlerData)) := rfl
  rw [renderNodes_forEach hhandlers] at ht
  obtain ⟨t, ht, -⟩ := bind_eq_ok.mp ht
  obtain ⟨last, t, ht⟩ := exists_of_loopText ht hroute
  exact not_renders_handler hbody hgetting hbegin hfirst hparams ht

lemma content_controller (hd : d ∈ plan.domains) (hparams : d.getRoute.pathParams = []) :
    (controller plan (context plan adapterId profile) d).content = .error emptyList := by
  cases hcontent : (controller plan (context plan adapterId profile) d).content with
  | ok text => exact absurd ⟨text, hcontent⟩ (not_rendered_controller hr adapterId profile hd hparams)
  | error fault => rw [(harmless_controller hr adapterId profile hd fault hcontent).2]

omit hr

def controllerFamilies (offline : Bool) (caps : List String) : List PathFamily :=
  [("package.json", [""]), ("tsconfig.json", [""]), ("src/middleware/auth.ts", [""]),
    ("src/middleware/errorHandler.ts", [""]), ("src/transformers/request.ts", [""]),
    ("src/transformers/response.ts", [""]), ("src/extensions/pagination.ts", [""]),
    ("src/extensions/offline.ts", if offline then [""] else []),
    ("src/controllers/", caps.map (· ++ "Controller.ts"))]

lemma paths_controllers (plan : Plan) (adapterId : String) (profile : Profile) (domains : List Domain) :
    (leading plan adapterId profile ++ controllers plan adapterId profile domains).map Draft.path =
      (controllerFamilies profile.offline (domains.map Domain.capitalized)).flatMap PathFamily.paths := by
  have hcontroller (base : List (String × Data)) (d : Domain) :
      (controller plan base d).path = "src/controllers/" ++ (d.capitalized ++ "Controller.ts") := by
    simp [controller, Draft.ofTemplate, Domain.controllerName_eq, ← String.toList_inj]
  cases hoffline : profile.offline <;>
    simp [controllerFamilies, leading, controllers, PathFamily.paths, hcontroller, hoffline,
      Draft.ofTemplate, Draft.text]

lemma nodup_controllers (offline : Bool) {caps : List String} (hcaps : caps.Nodup) :
    (((controllerFamilies offline caps) ++ [("src/index.ts", [""])]).flatMap PathFamily.paths).Nodup := by
  refine nodup_paths ?_ ?_
  · simp only [controllerFamilies, List.map_append, List.map_cons, List.map_nil]
    decide
  · simp only [controllerFamilies, List.forall_mem_append, List.forall_mem_cons,
      List.nodup_singleton, true_and]
    refine ⟨⟨?_, nodup_append_left _ hcaps, List.forall_mem_nil _⟩, List.forall_mem_nil _⟩
    cases offline
    · exact List.nodup_nil
    · exact List.nodup_singleton _

lemma nodup_leading {domains : List Domain} (hcaps : (domains.map Domain.capitalized).Nodup) :
    ((leading plan adapterId profile ++ controllers plan adapterId profile domains).map
      Draft.path).Nodup := by
  have hn := nodup_controllers profile.offline hcaps
  rw [List.flatMap_append, ← paths_controllers plan adapterId profile] at hn
  exact (List.nodup_append.mp hn).1

lemma nodup_drafts (hcaps : (plan.domains.map Domain.capitalized).Nodup) :
    ((drafts plan adapterId profile).map Draft.path).Nodup := by
  have hindex : [index plan adapterId profile].map Draft.path =
      [(("src/index.ts", [""]) : PathFamily)].flatMap PathFamily.paths := by
    simp [index, Draft.ofTemplate, PathFamily.paths]
  rw [drafts_eq, List.map_append, paths_controllers, hindex, ← List.flatMap_append]
  exact nodup_controllers profile.offline hcaps

lemma length_drafts (plan : Plan) (adapterId : String) (profile : Profile) :
    (drafts plan adapterId profile).length = 8 + plan.domains.length + if profile.offline then 1 else 0 := by
  cases hoffline : profile.offline
  · simp [drafts, hoffline]
    omega
  · simp [drafts, hoffline]
    omega

section

include hr

lemma rendered_drafts (hparams : ∀ d ∈ plan.domains, d.getRoute.pathParams ≠ []) :
    ∀ draft ∈ drafts plan adapterId profile, draft.Rendered := by
  rw [drafts_eq]
  simp only [List.forall_mem_append, List.forall_mem_singleton]
  refine ⟨⟨rendered_leading hr adapterId profile, ?_⟩, rendered_index hr adapterId profile⟩
  intro draft hdraft
  obtain ⟨d, hd, rfl⟩ := List.mem_map.mp hdraft
  exact rendered_controller hr adapterId profile hd (hparams d hd)

lemma generate_eq_ok (hparams : ∀ d ∈ plan.domains, d.getRoute.pathParams ≠ [])
    (hcaps : (plan.domains.map Domain.capitalized).Nodup) : generate plan adapterId =
      .ok ⟨PackageName.adapter adapterId,
        (drafts plan adapterId (Profile.resolve adapterId)).map Draft.artifact⟩ :=
  ArtifactSet.ofDrafts_eq_ok (rendered_drafts hr adapterId _ hparams) (nodup_drafts adapterId _ hcaps)

lemma builds_generate (hparams : ∀ d ∈ plan.domains, d.getRoute.pathParams ≠ [])
    (hcaps : (plan.domains.map Domain.capitalized).Nodup) :
    ArtifactSet.Builds (generate plan adapterId) (PackageName.adapter adapterId,
      8 + plan.domains.length + if (Profile.resolve adapterId).offline then 1 else 0) := by
  rw [← length_drafts plan adapterId]
  exact ArtifactSet.builds_ofDrafts (rendered_drafts hr adapterId _ hparams) (nodup_drafts adapterId _ hcaps)

lemma generate_of_repeated (hparams : ∀ d ∈ plan.domains, d.getRoute.pathParams ≠ []) {pre post : List Domain}
    (hd : plan.domains = pre ++ d :: post) (hcaps : (pre.map Domain.capitalized).Nodup)
    (hrepeated : d.capitalized ∈ pre.map Domain.capitalized) :
    generate plan adapterId = .error (.duplicate
      ⟨PackageName.adapter adapterId, "src/controllers/" ++ d.capitalized ++ "Controller.ts"⟩) := by
  have hrendered := rendered_drafts hr adapterId (Profile.resolve adapterId) hparams
  rw [drafts_eq, controllers, hd] at hrendered
  obtain ⟨e, he, hcap⟩ := List.mem_map.mp hrepeated
  rw [generate, drafts_eq, controllers, hd, ArtifactSet.ofDrafts_of_repeated hrendered]
  · simp [controller, Draft.ofTemplate, Domain.controllerName_eq, String.append_assoc]
  · exact nodup_leading adapterId _ hcaps
  · exact ⟨e, he, by simp [controller, Draft.ofTemplate, Domain.controllerName_eq, hcap]⟩

lemma generate_eq_template_iff {fault : Template.Fault} :
    generate plan adapterId = .error (.template fault) ↔ fault = emptyList ∧ ∃ pre d post,
      plan.domains = pre ++ d :: post ∧ (pre.map Domain.capitalized).Nodup ∧
        (∀ e ∈ pre, e.getRoute.pathParams ≠ []) ∧ d.getRoute.pathParams = [] := by
  rw [generate, drafts_eq, controllers, ArtifactSet.ofDrafts_eq_template_iff (rendered_leading hr adapterId _)
    (by simpa using rendered_index hr adapterId _)]
  constructor
  · rintro ⟨pre, d, post, hd, hpre, hn, hcontent⟩
    have hparams : d.getRoute.pathParams = [] := by
      by_contra hne
      obtain ⟨content, hc⟩ := rendered_controller hr adapterId (Profile.resolve adapterId) (by simp [hd]) hne
      rw [hc] at hcontent
      cases hcontent
    have hfault := content_controller hr adapterId (Profile.resolve adapterId) (by simp [hd]) hparams
    refine ⟨Except.error.inj (hcontent.symm.trans hfault), pre, d, post, hd, ?_, fun e he hnil => ?_, hparams⟩
    · rw [List.map_append] at hn
      refine .of_map (fun cap => "src/controllers/" ++ (cap ++ "Controller.ts")) ?_
      simpa [controller, Draft.ofTemplate, Domain.controllerName_eq, Function.comp_def,
        String.append_assoc] using
        (List.nodup_append.mp hn).2.1
    · exact not_rendered_controller hr adapterId (Profile.resolve adapterId)
        (by simp [hd, he]) hnil (hpre e he)
  · rintro ⟨rfl, pre, d, post, hd, hcaps, hpre, hparams⟩
    refine ⟨pre, d, post, hd, fun e he => ?_, nodup_leading adapterId _ hcaps, ?_⟩
    · exact rendered_controller hr adapterId _ (by simp [hd, he]) (hpre e he)
    · exact content_controller hr adapterId _ (by simp [hd]) hparams

end

end AdapterPackage

end ApiScaffold
