import ApiScaffold.Proofs.Api.Source
import Mathlib

namespace ApiScaffold

open Template Text Chain

namespace Domain

lemma routerName_inj {d e : Domain} : d.routerName = e.routerName ↔ d = e := by
  obtain ⟨s⟩ := d
  obtain ⟨t⟩ := e
  simp [routerName_eq, ← String.toList_inj]

end Domain

namespace AdapterPackage

open Node

variable {plan : Plan} {adapterId : String} {profile : Profile} {d : Domain} {r : Route}

def mountLine (d : Domain) : List Char :=
  layout Surface.mountStart [(d.collectionPath.toList, "', ".toList), (d.routerName.toList, "(deps.".toList),
    (d.token.toList, "));".toList)]

def mountLines : Template := [
  forEach "mount" (var "mounts") [
    text "  router.use('", field "mount" ["path"], text "', ", field "mount" ["domain", "router_name"],
    text "(deps.", field "mount" ["domain", "token"], text "));\n"] []]

lemma slicesTo_mountLines : SlicesTo [Surface.mountStart]
    (env true true) Template.Adapter.index mountLines := by
  unfold mountLines
  apply SlicesTo.intro
  · cbv
    repeat' constructor
  · cbv

lemma notMem_mountLine (h : isWord d.token.toList) : '\n' ∉ mountLine d := by
  have hrouter := notMem_of_isWord (c := '\n') (by decide) (Domain.isWord_routerName h)
  have htoken := notMem_of_isWord (c := '\n') (by decide) h
  refine notMem_layout (by decide) ?_
  simp only [List.forall_mem_cons]
  exact ⟨⟨Domain.notMem_collectionPath h, by decide⟩, ⟨hrouter, by decide⟩, ⟨htoken, by decide⟩,
    List.forall_mem_nil _⟩

lemma renderNodes_mountLine (scope : Scope) (d : Domain) :
    renderNodes (scope.bind "mount" (mountData (RouteTable.mountOf d))) [
      text "  router.use('", field "mount" ["path"], text "', ", field "mount" ["domain", "router_name"],
      text "(deps.", field "mount" ["domain", "token"], text "));\n"] =
        .ok (String.ofList (unlines [mountLine d])) := by
  have hrender : renderNodes (scope.bind "mount" (mountData (RouteTable.mountOf d))) [
        text "  router.use('", field "mount" ["path"], text "', ", field "mount" ["domain", "router_name"],
        text "(deps.", field "mount" ["domain", "token"], text "));\n"] =
      .ok ("  router.use('" ++ (d.collectionPath ++ ("', " ++ (d.routerName ++ ("(deps." ++ (d.token ++
        ("));\n" ++ ""))))))) := by
    simp only [renderNodes, field]
    rfl
  rw [hrender, Except.ok.injEq, ← String.toList_inj]
  unfold mountLine Surface.mountStart
  simp [unlines, layout]

lemma linesWith_index (hr : plan.routes = RouteTable.ofDomains plan.domains) (hn : plan.domains.Nodup)
    (hid : isWord adapterId.toList) (h : ∀ d ∈ plan.domains, isWord d.token.toList) {source : String}
    (hs : Template.render Template.Adapter.index (context plan adapterId profile) = .ok source) :
    linesWith [Surface.mountStart] source = plan.domains.map mountLine := by
  have hsource : (var "mounts").data (.ofContext (context plan adapterId profile)) =
      .ok (.list ((plan.domains.map RouteTable.mountOf).map mountData)) := by
    rw [← RouteTable.owners_ofDomains hn, ← hr, ← mounts_eq]
    rfl
  rw [List.map_map] at hsource
  have hk := renderNodes_loop (n := "mount") hsource fun d _ last => renderNodes_mountLine _ d
  rw [linesWith_render (fits_context true true adapterId (fun _ => hid) (fun d hd _ => h d hd) hr profile)
    (by decide) (by decide)
    slicesTo_mountLines hs hk, lines_join]
  · exact List.map_eq_flatMap.symm
  · intro d hd l hl
    obtain rfl := List.mem_singleton.mp hl
    exact notMem_mountLine (h d hd)

lemma readMount_mountLine (h : isWord d.token.toList) :
    Surface.readMount (mountLine d) =
      some ⟨d.collectionPath.toList, d.routerName.toList, d.token.toList⟩ := by
  have hpath : '\'' ∉ d.collectionPath.toList :=
    Domain.notMem_path (by decide) (by decide) h (r := d.listRoute) (by simp [Domain.routes])
  have hrouter := notMem_of_isWord (c := '(') (by decide) (Domain.isWord_routerName h)
  have htoken := notMem_of_isWord (c := ')') (by decide) h
  have hfields : readFields Surface.mountStart ["', ".toList, "(deps.".toList, "));".toList]
      (mountLine d ++ []) =
      some [d.collectionPath.toList, d.routerName.toList, d.token.toList] := by
    refine readFields_layout [(_, _), (_, _), (_, _)] ?_ _ []
    simp only [List.forall_mem_cons]
    exact ⟨⟨'\'', by decide, hpath⟩, ⟨'(', by decide, hrouter⟩, ⟨')', by decide, htoken⟩,
      List.forall_mem_nil _⟩
  rw [List.append_nil] at hfields
  rw [Surface.readMount, hfields]

def exportLine (d : Domain) : List Char :=
  layout Surface.exportStart [(d.routerName.toList, "(".toList)] ++ "deps: ".toList ++
    d.controllerName.toList ++
    "Deps): Router \x7b".toList

def handlerLine (r : Route) : List Char :=
  layout Surface.handlerStart [(r.method.key.toList, "('".toList), (r.relativePath.toList, "', ".toList)] ++
    "async (req: Request, res: Response, next: NextFunction) => \x7b".toList

def argument (cursor : Bool) (r : Route) : String :=
  match r.kind with
  | .list => if cursor then "\x7b cursor, limit \x7d" else "\x7b offset, limit \x7d"
  | .create => "input"
  | .get => "req.params." ++ r.domain.pathParam

def awaitLine (cursor : Bool) (r : Route) : List Char :=
  layout Surface.awaitStart [(r.operationId.toList, "(".toList)] ++ (argument cursor r).toList ++
    ", deps);".toList

def awaiting : List Node := [
  when (.equals (.path "route" ["kind", "value"]) "list") [
    when (.holds (var "cursor")) [
      text "      const result = await ", name "op", text "(\x7b cursor, limit \x7d, deps);\n"] [
      text "      const result = await ", name "op", text "(\x7b offset, limit \x7d, deps);\n"]] [
    when (.equals (.path "route" ["kind", "value"]) "create") [
      text "      const result = await ", name "op", text "(input, deps);\n"] [
      text "      const result = await ", name "op", text "(req.params.",
      print (.first (.path "route" ["path_params"])), text ", deps);\n"]]]

def handlerBody : List Node :=
  assign "route" (.path "handler" ["route"]) :: assign "op" (.path "route" ["operation_id"]) ::
  text "  router." :: print (.filtered .lowered (.path "route" ["method", "value"])) :: text "('" ::
  field "route" ["relative_path"] ::
    text "', async (req: Request, res: Response, next: NextFunction) => \x7b\n" ::
  awaiting

def handlerLines : Template := [forEach "handler" (var "handlers") handlerBody []]

def exportLines : Template := [
  text "export function ", field "domain" ["router_name"], text "(deps: ", field "domain" ["controller_name"],
  text "Deps): Router \x7b\n"]

set_option maxRecDepth 1000 in
lemma slicesTo_handlerLines : SlicesTo [Surface.handlerStart, Surface.awaitStart]
    (controllerEnv true true (handlerShape true .word (.list .word))) Template.Adapter.controller
      handlerLines := by
  unfold handlerLines handlerBody awaiting
  apply SlicesTo.intro
  · cbv
    repeat' constructor
  · cbv

set_option maxRecDepth 1000 in
lemma slicesTo_exportLines : SlicesTo [Surface.exportStart]
    (controllerEnv true true (handlerShape true .word (.list .word))) Template.Adapter.controller
      exportLines := by
  unfold exportLines
  apply SlicesTo.intro
  · cbv
    repeat' constructor
  · cbv

lemma lower_name (m : Method) : lower m.name = m.key := by
  cases m <;> decide

def handlerScope (scope : Scope) (r : Route) : Scope :=
  ("op", .defined (.string r.operationId)) :: ("route", .defined r.toData) ::
    scope.bind "handler" (handlerData r)

lemma renderNodes_awaiting {scope : Scope} {cursor : Bool}
    (hcursor : scope.value "cursor" = .defined (.bool cursor))
    (hparams : r.kind = .get → r.pathParams = [r.domain.pathParam]) :
    renderNodes (handlerScope scope r) awaiting = .ok (String.ofList (unlines [awaitLine cursor r])) := by
  have hkind : (Expr.path "route" ["kind", "value"]).data (handlerScope scope r) =
      .ok (.string r.kind.name) := rfl
  have hname : (var "op").data (handlerScope scope r) = .ok (.string r.operationId) := rfl
  have hcursor : (var "cursor").data (handlerScope scope r) = .ok (.bool cursor) := by
    have hvalue : (handlerScope scope r).value "cursor" = .defined (.bool cursor) := hcursor
    rw [Expr.data, var, Expr.eval, hvalue]
    rfl
  have hfirst (hk : r.kind = .get) :
      (Expr.first (.path "route" ["path_params"])).data (handlerScope scope r) =
        .ok (.string r.domain.pathParam) := by
    have hlist : (Expr.path "route" ["path_params"]).eval (handlerScope scope r) =
        .ok (.defined (.strings r.pathParams)) :=
      rfl
    rw [Expr.data, Expr.eval, hlist, hparams hk]
    rfl
  unfold awaiting awaitLine Surface.awaitStart
  simp only [renderNodes, name, Condition.eval, hkind, hname, hcursor, ok_bind, pure_eq_ok, Data.truthy,
    Data.display_string]
  cases hk : r.kind with
  | list =>
    have hlist : (RouteKind.list.name == "list") = true := by decide
    simp only [hlist, if_true]
    cases cursor
    · simp only [Bool.false_eq_true, if_false, ok_bind, Except.ok.injEq, ← String.toList_inj]
      simp [unlines, layout, argument, hk]
    · simp only [if_true, ok_bind, Except.ok.injEq, ← String.toList_inj]
      simp [unlines, layout, argument, hk]
  | create =>
    have hlist : (RouteKind.create.name == "list") = false := by decide
    have hcreate : (RouteKind.create.name == "create") = true := by decide
    simp only [hlist, hcreate, Bool.false_eq_true, if_false, if_true, ok_bind, Except.ok.injEq,
      ← String.toList_inj]
    simp [unlines, layout, argument, hk]
  | get =>
    have hlist : (RouteKind.get.name == "list") = false := by decide
    have hcreate : (RouteKind.get.name == "create") = false := by decide
    simp only [hlist, hcreate, hfirst hk, Bool.false_eq_true, if_false, ok_bind, Data.display_string,
      Except.ok.injEq, ← String.toList_inj]
    simp [unlines, layout, argument, hk]

lemma renderNodes_handlerBody {scope : Scope} {cursor : Bool}
    (hcursor : scope.value "cursor" = .defined (.bool cursor))
    (hparams : r.kind = .get → r.pathParams = [r.domain.pathParam]) :
    renderNodes (scope.bind "handler" (handlerData r)) handlerBody =
      .ok (String.ofList (unlines [handlerLine r, awaitLine cursor r])) := by
  have hroute : (Expr.path "handler" ["route"]).eval (scope.bind "handler" (handlerData r)) =
      .ok (.defined r.toData) :=
    rfl
  have hop : (Expr.path "route" ["operation_id"]).eval (("route", .defined r.toData) ::
      scope.bind "handler" (handlerData r)) = .ok (.defined (.string r.operationId)) := rfl
  have hscope : ("op", .defined (.string r.operationId)) :: ("route", .defined r.toData) ::
      scope.bind "handler" (handlerData r) = handlerScope scope r := rfl
  have hmethod : (Expr.filtered .lowered (.path "route" ["method", "value"])).data (handlerScope scope r) =
      .ok (.string r.method.key) := by
    rw [← lower_name]
    rfl
  have hrelative : (Expr.path "route" ["relative_path"]).data (handlerScope scope r) =
      .ok (.string r.relativePath) := rfl
  unfold handlerBody handlerLine Surface.handlerStart
  simp only [renderNodes, field, hroute, hop, hscope, ok_bind, hmethod, hrelative,
    renderNodes_awaiting hcursor hparams,
    pure_eq_ok, Data.display_string, Except.ok.injEq, ← String.toList_inj]
  simp [unlines, layout]

lemma fits_wordHandler (h : isWord d.token.toList) (hr : r ∈ d.routes) :
    Fits (handlerShape true .word (.list .word)) (handlerData r) := by
  have hkind : isWord r.kind.name.toList := by
    cases r.kind <;> decide
  have hdeps := isWord_concat (isWord_capitalize (Domain.isWord_operationId h hr)) (t := "Deps") (by decide)
  exact .field (Domain.fits_route (fun _ => h) hr (.word hkind)) <| .field (fits_name fun _ => hdeps) .empty

lemma notMem_exportLine (h : isWord d.token.toList) : '\n' ∉ exportLine d := by
  have hrouter := notMem_of_isWord (c := '\n') (by decide) (Domain.isWord_routerName h)
  have hcontroller := notMem_of_isWord (c := '\n') (by decide) (Domain.isWord_controllerName h)
  have hlayout : '\n' ∉ layout Surface.exportStart [(d.routerName.toList, "(".toList)] := by
    refine notMem_layout (by decide) ?_
    simp only [List.forall_mem_cons]
    exact ⟨⟨hrouter, by decide⟩, List.forall_mem_nil _⟩
  simp only [exportLine, List.mem_append, not_or]
  exact ⟨⟨⟨hlayout, by decide⟩, hcontroller⟩, by decide⟩

lemma notMem_relativePath {c : Char} (hc : isWordChar c = false) (hplace : c ∉ ['/', ':'])
    (h : isWord d.token.toList) (hr : r ∈ d.routes) : c ∉ r.relativePath.toList := by
  simp only [List.mem_cons, List.not_mem_nil, or_false, not_or] at hplace
  rw [Domain.relativePath_eq h hr]
  split
  · simp [notMem_of_isWord hc (Domain.isWord_pathParam h), hplace]
  · simp [hplace]

lemma notMem_handlerLine (h : isWord d.token.toList) (hr : r ∈ d.routes) : '\n' ∉ handlerLine r := by
  have hkey : '\n' ∉ r.method.key.toList := by
    cases r.method <;> decide
  have hrelative := notMem_relativePath (c := '\n') (by decide) (by decide) h hr
  have hlayout : '\n' ∉ layout Surface.handlerStart
      [(r.method.key.toList, "('".toList), (r.relativePath.toList, "', ".toList)] := by
    refine notMem_layout (by decide) ?_
    simp only [List.forall_mem_cons]
    exact ⟨⟨hkey, by decide⟩, ⟨hrelative, by decide⟩, List.forall_mem_nil _⟩
  simp only [handlerLine, List.mem_append, not_or]
  exact ⟨hlayout, by decide⟩

lemma notMem_argument (h : isWord d.token.toList) (hr : r ∈ d.routes) (cursor : Bool) :
    '\n' ∉ (argument cursor r).toList := by
  have hparam := notMem_of_isWord (c := '\n') (by decide) (Domain.isWord_pathParam h)
  unfold argument
  split
  · cases cursor <;> decide
  · decide
  · simp [Domain.domain_of_mem_routes hr, hparam]

lemma notMem_awaitLine (h : isWord d.token.toList) (hr : r ∈ d.routes) (cursor : Bool) :
    '\n' ∉ awaitLine cursor r := by
  have hop := notMem_of_isWord (c := '\n') (by decide) (Domain.isWord_operationId h hr)
  have hlayout : '\n' ∉ layout Surface.awaitStart [(r.operationId.toList, "(".toList)] := by
    refine notMem_layout (by decide) ?_
    simp only [List.forall_mem_cons]
    exact ⟨⟨hop, by decide⟩, List.forall_mem_nil _⟩
  simp only [awaitLine, List.mem_append, not_or]
  exact ⟨⟨hlayout, notMem_argument h hr cursor⟩, by decide⟩

section

variable (hr : plan.routes = RouteTable.ofDomains plan.domains) (hid : isWord adapterId.toList)
  (h : ∀ d ∈ plan.domains, isWord d.token.toList) {source : String} (hd : d ∈ plan.domains)
  (hs : Template.render Template.Adapter.controller
    (controllerContext plan d ++ context plan adapterId profile) = .ok source)

include hr hid h hd hs

lemma linesWith_exports : linesWith [Surface.exportStart] source = [exportLine d] := by
  have hfits := fits_controllerContext true true adapterId (fun _ => hid) (fun d hd _ => h d hd) hr profile hd
    fun r hroute => fits_wordHandler (h d hd) hroute
  have hk :
      renderNodes (.ofContext (controllerContext plan d ++ context plan adapterId profile)) exportLines =
        .ok ("export function " ++
          (d.routerName ++ ("(deps: " ++ (d.controllerName ++ ("Deps): Router \x7b\n" ++ ""))))) := by
    simp only [exportLines, renderNodes, field]
    rfl
  have hline :
      ("export function " ++
        (d.routerName ++ ("(deps: " ++ (d.controllerName ++ ("Deps): Router \x7b\n" ++ ""))))) =
      String.ofList (unlines [exportLine d]) := by
    rw [← String.toList_inj]
    unfold exportLine Surface.exportStart
    simp [unlines, layout]
  rw [hline] at hk
  rw [linesWith_render hfits (by decide) (by decide) slicesTo_exportLines hs hk]
  refine lines_ofList_unlines fun l hl => ?_
  obtain rfl := List.mem_singleton.mp hl
  exact notMem_exportLine (h d hd)

lemma linesWith_handlers (hn : plan.domains.Nodup) :
    linesWith [Surface.handlerStart, Surface.awaitStart] source =
    d.routes.flatMap fun r => [handlerLine r, awaitLine (profile.pagination = .cursor) r] := by
  have hfits := fits_controllerContext true true adapterId (fun _ => hid) (fun d hd _ => h d hd) hr profile hd
    fun r hroute => fits_wordHandler (h d hd) hroute
  have hsource : (var "handlers").data
      (.ofContext (controllerContext plan d ++ context plan adapterId profile)) =
      .ok (.list (d.routes.map handlerData)) := by
    rw [← RouteTable.routesFor_ofDomains hn hd, ← hr]
    rfl
  have hk := renderNodes_loop (n := "handler") hsource fun r hroute last => by
    refine renderNodes_handlerBody
      (rfl : Scope.value _ "cursor" = .defined (.bool (profile.pagination = .cursor)))
      fun hk => ?_
    obtain rfl : r = d.getRoute := by
      rcases Domain.eq_of_mem_routes hroute with rfl | rfl | rfl
      · cases hk
      · cases hk
      · rfl
    exact Domain.pathParams_getRoute (Domain.plain_of_isWord (h d hd))
  rw [linesWith_render hfits (by decide) (by decide) slicesTo_handlerLines hs hk, lines_join]
  intro r hroute l hl
  rw [List.mem_cons, List.mem_singleton] at hl
  rcases hl with rfl | rfl
  · exact notMem_handlerLine (h d hd) hroute
  · exact notMem_awaitLine (h d hd) hroute _

end

lemma fields_exportLine (h : isWord d.token.toList) :
    readFields Surface.exportStart ["(".toList] (exportLine d) = some [d.routerName.toList] := by
  have hrouter := notMem_of_isWord (c := '(') (by decide) (Domain.isWord_routerName h)
  rw [exportLine, List.append_assoc, List.append_assoc]
  refine readFields_layout [(_, _)] ?_ _ _
  simp only [List.forall_mem_cons]
  exact ⟨⟨'(', by decide, hrouter⟩, List.forall_mem_nil _⟩

lemma fields_handlerLine (h : isWord d.token.toList) (hr : r ∈ d.routes) :
    readFields Surface.handlerStart ["('".toList, "', ".toList] (handlerLine r) =
      some [r.method.key.toList, r.relativePath.toList] := by
  have hkey : '(' ∉ r.method.key.toList := by
    cases r.method <;> decide
  have hrelative := notMem_relativePath (c := '\'') (by decide) (by decide) h hr
  refine readFields_layout [(_, _), (_, _)] ?_ _ _
  simp only [List.forall_mem_cons]
  exact ⟨⟨'(', by decide, hkey⟩, ⟨'\'', by decide, hrelative⟩, List.forall_mem_nil _⟩

lemma fields_awaitLine (h : isWord d.token.toList) (hr : r ∈ d.routes) (cursor : Bool) :
    readFields Surface.awaitStart ["(".toList] (awaitLine cursor r) = some [r.operationId.toList] := by
  have hop := notMem_of_isWord (c := '(') (by decide) (Domain.isWord_operationId h hr)
  rw [awaitLine, List.append_assoc]
  refine readFields_layout [(_, _)] ?_ _ _
  simp only [List.forall_mem_cons]
  exact ⟨⟨'(', by decide, hop⟩, List.forall_mem_nil _⟩

lemma methodOfKey?_key (m : Method) : Surface.methodOfKey? m.key.toList = some m := by
  cases m <;> decide

lemma readHandler_lines (h : isWord d.token.toList) (hr : r ∈ d.routes) (cursor : Bool) :
    Surface.readHandler (handlerLine r) (awaitLine cursor r) =
      some ⟨r.method, r.relativePath.toList, r.operationId.toList⟩ := by
  rw [Surface.readHandler, fields_handlerLine h hr, fields_awaitLine h hr]
  simp only [methodOfKey?_key, Option.map_some]

lemma readHandlers_flatMap {α : Type} {items : List α} {first second : α → List Char}
    {read : α → Surface.Handler} (h : ∀ x ∈ items, Surface.readHandler (first x) (second x) = some (read x)) :
    Surface.readHandlers (items.flatMap fun x => [first x, second x]) = some (items.map read) := by
  induction items with
  | nil => rfl
  | cons x rest ih =>
    have hrest := ih fun y hy => h y (List.mem_cons_of_mem x hy)
    simp only [List.flatMap_cons, List.cons_append, List.nil_append, Surface.readHandlers,
      h x List.mem_cons_self, hrest]
    rfl

lemma templated_param {p : List Char} (h : isWord p) :
    Surface.templated (':' :: p) = '\x7b' :: (p ++ ['\x7d']) := by
  have hall : ∀ c ∈ p, isWordChar c := List.all_eq_true.mp h
  rw [Surface.templated, if_pos rfl, List.takeWhile_eq_self_iff.mpr hall, List.dropWhile_eq_nil_iff.mpr hall,
    Surface.templated]

lemma join_mount (h : isWord d.token.toList) (hr : r ∈ d.routes) :
    Surface.join d.collectionPath.toList ⟨r.method, r.relativePath.toList, r.operationId.toList⟩ =
      r.endpoint := by
  have hpath : (if r.relativePath.toList = ['/'] then d.collectionPath.toList
      else d.collectionPath.toList ++ Surface.templated r.relativePath.toList) = r.path.toList := by
    rw [Domain.relativePath_eq h hr]
    split
    · subst r
      have htemplated : Surface.templated ("/:" ++ d.pathParam).toList =
          '/' :: '\x7b' :: (d.pathParam.toList ++ ['\x7d']) := by
        rw [← templated_param (Domain.isWord_pathParam h)]
        simp [Surface.templated]
      rw [if_neg (by simp), htemplated, Domain.getRoute, Domain.toList_itemPath]
    · rename_i hne
      rw [if_pos (by decide), (Domain.path_cases hr).resolve_right hne]
  simp only [Surface.join, hpath, Route.endpoint, String.ofList_toList]

lemma find?_map_of_iff {α β : Type} {f : α → β} {p : β → Bool} {items : List α} {x : α}
    (h : ∀ y ∈ items, p (f y) = true ↔ y = x) (hx : x ∈ items) : (items.map f).find? p = some (f x) := by
  induction items with
  | nil => cases hx
  | cons y rest ih =>
    rw [List.map_cons, List.find?_cons]
    by_cases hy : y = x
    · rw [(h y List.mem_cons_self).mpr hy, hy]
    · rw [Bool.eq_false_iff.mpr fun hp => hy ((h y List.mem_cons_self).mp hp)]
      exact ih (fun z hz => h z (List.mem_cons_of_mem y hz)) ((List.mem_cons.mp hx).resolve_left (Ne.symm hy))

def controllerArtifact (plan : Plan) (adapterId : String) (profile : Profile) (d : Domain) : Artifact :=
  (controller plan (context plan adapterId profile) d).artifact

lemma isController_leading : ∀ draft ∈ leading plan adapterId profile,
    Surface.isController draft.path = false := by
  have hoffline : ∀ draft ∈ (if profile.offline then [Draft.ofTemplate "src/extensions/offline.ts"
      Template.Adapter.offline (context plan adapterId profile)] else []),
        Surface.isController draft.path = false := by
    intro draft hdraft
    split at hdraft
    · obtain rfl := List.mem_singleton.mp hdraft
      exact (by decide : Surface.isController "src/extensions/offline.ts" = false)
    · cases hdraft
  simp only [leading, List.forall_mem_append, List.forall_mem_cons, Draft.ofTemplate, Draft.text]
  exact ⟨⟨by decide, by decide, by decide, by decide, by decide, by decide, by decide, List.forall_mem_nil _⟩,
    hoffline⟩

lemma isController_controller (plan : Plan) (base : List (String × Data)) (d : Domain) :
    Surface.isController (controller plan base d).path := by
  simp only [Surface.isController, controller, Draft.ofTemplate, String.toList_append, List.append_assoc]
  unfold Surface.controllerFolder
  exact List.isPrefixOf_iff_prefix.mpr (List.prefix_append _ _)

lemma controllers_artifacts (plan : Plan) (adapterId : String) (profile : Profile) (package : String) :
    Surface.controllers ⟨package, (drafts plan adapterId profile).map Draft.artifact⟩ =
      plan.domains.map (controllerArtifact plan adapterId profile) := by
  have hindex : Surface.isController (index plan adapterId profile).artifact.path = false :=
    (by decide : Surface.isController "src/index.ts" = false)
  have hleading : ((leading plan adapterId profile).map Draft.artifact).filter (Surface.isController ·.path) =
      [] := by
    rw [List.filter_eq_nil_iff]
    intro a ha
    obtain ⟨draft, hdraft, rfl⟩ := List.mem_map.mp ha
    exact Bool.eq_false_iff.mp (isController_leading draft hdraft)
  have hcontrollers : (((controllers plan adapterId profile plan.domains).map Draft.artifact).filter
      (Surface.isController ·.path)) =
        (controllers plan adapterId profile plan.domains).map Draft.artifact := by
    rw [List.filter_eq_self]
    intro a ha
    obtain ⟨draft, hdraft, rfl⟩ := List.mem_map.mp ha
    obtain ⟨d, -, rfl⟩ := List.mem_map.mp hdraft
    exact isController_controller plan (context plan adapterId profile) d
  rw [Surface.controllers, drafts_eq, List.map_append, List.map_append, List.filter_append,
    List.filter_append, hleading,
    hcontrollers, List.map_singleton, List.filter_singleton, hindex, controllers, List.map_map]
  exact List.append_nil _

section

variable (hr : plan.routes = RouteTable.ofDomains plan.domains) (hid : isWord adapterId.toList)
  (h : ∀ d ∈ plan.domains, isWord d.token.toList)

include hr h

lemma render_controller (hd : d ∈ plan.domains) :
    Template.render Template.Adapter.controller (controllerContext plan d ++ context plan adapterId profile) =
      .ok (controllerArtifact plan adapterId profile d).content := by
  exact Draft.content_of_rendered
    (rendered_controller hr adapterId profile hd (Domain.pathParams_getRoute_ne_nil (h d hd)))

include hid

lemma exported_controller (hd : d ∈ plan.domains) :
    Surface.exported (controllerArtifact plan adapterId profile d).content = [d.routerName.toList] := by
  rw [Surface.exported, linesWith_exports hr hid h hd (render_controller hr h hd)]
  rw [List.filterMap_cons, fields_exportLine (h d hd)]
  rfl

lemma handlers_controller (hn : plan.domains.Nodup) (hd : d ∈ plan.domains) :
    Surface.handlers (controllerArtifact plan adapterId profile d).content =
      some (d.routes.map fun r => ⟨r.method, r.relativePath.toList, r.operationId.toList⟩) := by
  rw [Surface.handlers, linesWith_handlers hr hid h hd (render_controller hr h hd) hn]
  exact readHandlers_flatMap fun r hroute => readHandler_lines (h d hd) hroute _

lemma served_mount (hn : plan.domains.Nodup) (hd : d ∈ plan.domains) :
    Surface.served (plan.domains.map (controllerArtifact plan adapterId profile))
      ⟨d.collectionPath.toList, d.routerName.toList, d.token.toList⟩ =
        some (d.routes.map Route.endpoint) := by
  have hexports : ∀ e ∈ plan.domains,
      (Surface.exported (controllerArtifact plan adapterId profile e).content).contains d.routerName.toList =
        true ↔
        e = d := by
    intro e he
    rw [exported_controller hr hid h he, List.contains_iff_mem, List.mem_singleton, String.toList_inj,
      Domain.routerName_inj, eq_comm]
  have hfind := find?_map_of_iff (f := controllerArtifact plan adapterId profile)
    (p := fun a => (Surface.exported a.content).contains d.routerName.toList) hexports hd
  rw [Surface.served, hfind, Option.bind_some, handlers_controller hr hid h hn hd,
    Option.map_some, List.map_map, Option.some.injEq]
  exact List.map_congr_left fun r hroute => join_mount (h d hd) hroute

lemma ofAdapter_eq (hcaps : (plan.domains.map Domain.capitalized).Nodup) :
    ∃ s, generate plan adapterId = .ok s ∧ Surface.ofAdapter s = some (plan.routes.map Route.endpoint) := by
  have hn : plan.domains.Nodup := .of_map _ hcaps
  have hrendered := rendered_drafts hr adapterId (Profile.resolve adapterId) fun d hd =>
    Domain.pathParams_getRoute_ne_nil (h d hd)
  have hpaths := nodup_drafts adapterId (Profile.resolve adapterId) hcaps
  refine ⟨_, ArtifactSet.ofDrafts_eq_ok hrendered hpaths, ?_⟩
  have hindex :=
    Draft.find?_artifact hpaths (d := index plan adapterId (Profile.resolve adapterId)) (by simp [drafts_eq])
  have hlines :=
    linesWith_index hr hn hid h
      (Draft.content_of_rendered (rendered_index hr adapterId (Profile.resolve adapterId)))
  have hmounts : (plan.domains.map mountLine).mapM Surface.readMount =
      some (plan.domains.map fun d => ⟨d.collectionPath.toList, d.routerName.toList, d.token.toList⟩) := by
    rw [List.mapM_map]
    exact mapM_some fun d hd => readMount_mountLine (h d hd)
  have hserved :
      (plan.domains.map fun d => ⟨d.collectionPath.toList, d.routerName.toList, d.token.toList⟩).mapM
      (Surface.served (plan.domains.map (controllerArtifact plan adapterId (Profile.resolve adapterId)))) =
      some (plan.domains.map fun d => d.routes.map Route.endpoint) := by
    rw [List.mapM_map]
    exact mapM_some fun d hd => served_mount hr hid h hn hd
  have hroutes : (plan.domains.map fun d => d.routes.map Route.endpoint).flatten =
      plan.routes.map Route.endpoint := by
    rw [hr, RouteTable.ofDomains, List.map_flatMap]
    rfl
  rw [← hroutes]
  have hsource : ((drafts plan adapterId (Profile.resolve adapterId)).map Draft.artifact).find?
      (·.path == "src/index.ts") =
    some (index plan adapterId (Profile.resolve adapterId)).artifact := hindex
  simp only [Surface.ofAdapter, hsource, Option.map_some, controllers_artifacts, hlines, hmounts, hserved,
    bind, Option.bind_some]

end

end AdapterPackage

end ApiScaffold
