import ApiScaffold.Proofs.Api.Router
import ApiScaffold.Proofs.Linkage.Specifier

namespace ApiScaffold

open Template Text Chain Linkage

namespace AdapterPackage

open Node

variable {plan : Plan} {adapterId : String} {profile : Profile} {d : Domain}

def authStatements : Template := [text "import \x7b Request, Response, NextFunction \x7d from 'express';\n"]

lemma slicesTo_auth (auth : AuthScheme) : SlicesTo Linkage.starts (env true true)
    (authTemplate auth) authStatements := by
  cases auth with
  | session | bearer =>
    unfold authStatements authTemplate
    apply SlicesTo.intro
    · cbv
      repeat' constructor
    · cbv

def errorStatements : Template := [
  text "import \x7b Request, Response, NextFunction \x7d from 'express';\n",
  text "import \x7b DomainError \x7d from '@corebridge/core';\n"]

lemma slicesTo_errorHandler :
    SlicesTo Linkage.starts (env true true) Template.Adapter.errorHandler errorStatements := by
  unfold errorStatements
  apply SlicesTo.intro
  · cbv
    repeat' constructor
  · cbv

def requestStatements : Template := [text "import \x7b Request, Response \x7d from 'express';\n"]

lemma slicesTo_request :
    SlicesTo Linkage.starts (env true true) Template.Adapter.request requestStatements := by
  unfold requestStatements
  apply SlicesTo.intro
  · cbv
    repeat' constructor
  · cbv

def responseStatements : Envelope → Template
  | .plain => [text "import \x7b Response \x7d from 'express';\n"]
  | .offlineWrapped => [
    text "import \x7b Response \x7d from 'express';\n",
    text "import \x7b OperationId \x7d from '@corebridge/contracts';\n",
    text "import \x7b noCache, wrapWithOfflineFlags \x7d from '../extensions/offline.js';\n"]

def responseSpecifiers : Envelope → List String
  | .plain => ["express"]
  | .offlineWrapped => ["express", "@corebridge/contracts", "../extensions/offline.js"]

lemma reads_responseStatements (scope : Scope) (envelope : Envelope) :
    Reads specifier? scope (responseStatements envelope) (responseSpecifiers envelope) := by
  cases envelope with
  | plain => exact .text rfl rfl rfl .nil
  | offlineWrapped => exact .text rfl rfl rfl (.text rfl rfl rfl (.text rfl rfl rfl .nil))

set_option maxRecDepth 1000 in
lemma slicesTo_response (envelope : Envelope) :
    SlicesTo Linkage.starts (env true true) (responseTemplate envelope) (responseStatements envelope) := by
  cases envelope with
  | plain | offlineWrapped =>
    unfold responseStatements responseTemplate
    apply SlicesTo.intro
    · cbv
      repeat' constructor
    · cbv

set_option maxRecDepth 1000 in
lemma slicesTo_pagination (pagination : PaginationStyle) :
    SlicesTo Linkage.starts (env true true) (paginationTemplate pagination) [] := by
  cases pagination with
  | cursor | offset =>
    unfold paginationTemplate
    apply SlicesTo.intro
    · cbv
      repeat' constructor
    · cbv

def offlineStatements : Template := [text "import \x7b OperationId \x7d from '@corebridge/contracts';\n"]

set_option maxRecDepth 1000 in
lemma slicesTo_offline :
    SlicesTo Linkage.starts (env true true) Template.Adapter.offline offlineStatements := by
  unfold offlineStatements
  apply SlicesTo.intro
  · cbv
    repeat' constructor
  · cbv

def requestImport : List Node :=
  [text "import \x7b ", name "request_type", text " \x7d from '@corebridge/contracts';\n"]

def paginationImport : Node :=
  when (.holds (var "cursor")) [
    text "import \x7b parseCursorPagination, wrapCursorPagination \x7d from '../extensions/pagination.js';\n"]
      [
    text "import \x7b parseOffsetPagination, wrapOffsetPagination \x7d from '../extensions/pagination.js';\n"]

def controllerStatements : Template :=
  text "import \x7b Router, Request, Response, NextFunction \x7d from 'express';\n" :: text "import \x7b\n" ::
  text "\x7d from '@corebridge/core';\n" :: (requestImport ++ [
    text "import \x7b transformRequest \x7d from '../transformers/request.js';\n",
    text "import \x7b sendResponse, sendCreated \x7d from '../transformers/response.js';\n",
    paginationImport])

set_option maxRecDepth 1000 in
lemma slicesTo_controller :
    SlicesTo Linkage.starts (controllerEnv true true (handlerShape true .word (.list .word)))
    Template.Adapter.controller controllerStatements := by
  unfold controllerStatements requestImport paginationImport
  apply SlicesTo.intro
  · cbv
    repeat' constructor
  · cbv

def controllerImport : List Node := [
  text "import \x7b ", field "domain" ["router_name"], text ", ", field "domain" ["controller_name"],
  text "Deps \x7d from './controllers/", field "domain" ["controller_name"], text ".js';\n"]

def extensionExport : List Node := [text "export * from './extensions/", name "module", text ".js';\n"]

def indexStatements : Template := [
  text "import \x7b Router \x7d from 'express';\n",
  when (.holds (var "session")) [text "import cookieParser from 'cookie-parser';\n"] [],
  text "import \x7b authMiddleware \x7d from './middleware/auth.js';\n",
  text "import \x7b errorHandler \x7d from './middleware/errorHandler.js';\n",
  forEach "domain" (var "domains") controllerImport [],
  text "export \x7b authMiddleware \x7d from './middleware/auth.js';\n",
  text "export \x7b errorHandler \x7d from './middleware/errorHandler.js';\n",
  forEach "module" (var "extension_modules") extensionExport []]

lemma slicesTo_index : SlicesTo Linkage.starts (env true true) Template.Adapter.index indexStatements := by
  unfold indexStatements controllerImport extensionExport
  apply SlicesTo.intro
  · cbv
    repeat' constructor
  · cbv

section

variable (h : isWord d.token.toList)

include h

lemma reads_requestImport :
    Reads specifier? (.ofContext (controllerContext plan d ++ context plan adapterId profile))
    requestImport ["@corebridge/contracts"] := by
  have hrender :
      renderNodes (.ofContext (controllerContext plan d ++ context plan adapterId profile)) requestImport =
      .ok ("import \x7b " ++ (d.createRequestName ++ (" \x7d from '@corebridge/contracts';\n" ++ ""))) := by
    simp only [requestImport, renderNodes, name]
    rfl
  exact reads_statement ("import \x7b " ++ d.createRequestName ++ " \x7d from ") _ hrender
    (by simp [← String.toList_inj])
    (((plain_of_chars rfl rfl).append (plain_of_isWord (Domain.isWord_createRequestName h))).append
      (plain_of_chars rfl rfl))
    (plain_of_chars rfl rfl)

lemma reads_controllerStatements :
    Reads specifier? (.ofContext (controllerContext plan d ++ context plan adapterId profile))
      controllerStatements
      ["express", "@corebridge/core", "@corebridge/contracts", "../transformers" ++ "/" ++ "request" ++ ".js",
        "../transformers" ++ "/" ++ "response" ++ ".js",
        "../extensions" ++ "/" ++ "pagination" ++ ".js"] := by
  have hcursor : (Condition.holds (var "cursor")).eval
      (.ofContext (controllerContext plan d ++ context plan adapterId profile)) =
      .ok (decide (profile.pagination = .cursor)) := rfl
  have hpagination :
      Reads specifier? (.ofContext (controllerContext plan d ++ context plan adapterId profile))
      [paginationImport] (["../extensions" ++ "/" ++ "pagination" ++ ".js"] ++ []) := by
    refine .when hcursor ?_ .nil
    cases decide (profile.pagination = .cursor) with
    | true | false => exact .text rfl rfl rfl .nil
  refine .text rfl rfl rfl (.skip rfl rfl rfl (.text rfl rfl rfl ((reads_requestImport h).append rfl ?_)))
  exact .text rfl rfl rfl (.text rfl rfl rfl hpagination)

lemma reads_controllerImport (scope : Scope) :
    Reads specifier? (scope.bind "domain" d.toData) controllerImport
    ["./controllers" ++ "/" ++ d.controllerName ++ ".js"] := by
  have hrender : renderNodes (scope.bind "domain" d.toData) controllerImport =
      .ok ("import \x7b " ++ (d.routerName ++
        (", " ++
          (d.controllerName ++
            ("Deps \x7d from './controllers/" ++ (d.controllerName ++ (".js';\n" ++ ""))))))) := by
    simp only [controllerImport, renderNodes, field]
    rfl
  have hrouter := plain_of_isWord (Domain.isWord_routerName h)
  have hcontroller := Domain.isWord_controllerName h
  refine reads_statement ("import \x7b " ++ d.routerName ++ ", " ++ d.controllerName ++ "Deps \x7d from ") _
    hrender
    (by simp [← String.toList_inj]) ?_ (plain_specifier (plain_of_chars rfl rfl) hcontroller)
  exact ((((plain_of_chars rfl rfl).append hrouter).append (plain_of_chars rfl rfl)).append
    (plain_of_isWord hcontroller)).append (plain_of_chars rfl rfl)

end

lemma isWord_name (e : Extension) : isWord e.name.toList := by
  cases e <;> decide

lemma reads_extensionExport (scope : Scope) (e : Extension) :
    Reads specifier? (scope.bind "module" (.string e.name))
    extensionExport ["./extensions" ++ "/" ++ e.name ++ ".js"] := by
  have hrender : renderNodes (scope.bind "module" (.string e.name)) extensionExport =
      .ok ("export * from './extensions/" ++ (e.name ++ (".js';\n" ++ ""))) := by
    simp only [extensionExport, renderNodes, name]
    rfl
  exact reads_statement "export * from " _ hrender (by simp [← String.toList_inj]) (plain_of_chars rfl rfl)
    (plain_specifier (plain_of_chars rfl rfl) (isWord_name e))

def indexSpecifiers (domains : List Domain) (profile : Profile) : List String :=
  "express" :: ((if profile.auth = .session then ["cookie-parser"] else []) ++
  "./middleware/auth.js" :: "./middleware/errorHandler.js" ::
  ((domains.flatMap fun d => ["./controllers" ++ "/" ++ d.controllerName ++ ".js"]) ++
  "./middleware/auth.js" :: "./middleware/errorHandler.js" ::
  ((profile.extensions.flatMap fun e => ["./extensions" ++ "/" ++ e.name ++ ".js"]) ++ [])))

lemma reads_indexStatements (h : ∀ d ∈ plan.domains, isWord d.token.toList) :
    Reads specifier? (.ofContext (context plan adapterId profile)) indexStatements
      (indexSpecifiers plan.domains profile) := by
  have hsession : (Condition.holds (var "session")).eval (.ofContext (context plan adapterId profile)) =
      .ok (decide (profile.auth = .session)) := rfl
  have hdomains : (var "domains").data (.ofContext (context plan adapterId profile)) =
      .ok (.list (plan.domains.map Domain.toData)) := rfl
  have hextensions : (var "extension_modules").data (.ofContext (context plan adapterId profile)) =
      .ok (.list (profile.extensions.map fun e => .string e.name)) := by
    have hnames : (profile.extensions.map Extension.name).map Data.string = profile.extensions.map fun e =>
        .string e.name :=
      List.map_map
    rw [← hnames]
    rfl
  have hcookie : Reads specifier? (.ofContext (context plan adapterId profile))
      (if decide (profile.auth = .session) then [text "import cookieParser from 'cookie-parser';\n"] else [])
      (if profile.auth = .session then ["cookie-parser"] else []) := by
    cases profile.auth with
    | session => exact .text rfl rfl rfl .nil
    | bearer => exact .nil
  refine .text rfl rfl rfl (.when hsession hcookie (.text rfl rfl rfl (.text rfl rfl rfl ?_)))
  refine .forEach hdomains (fun d hd last => reads_controllerImport (h d hd) _) ?_
  exact .text rfl rfl rfl
    (.text rfl rfl rfl (.forEach hextensions (fun e _ last => reads_extensionExport _ e) .nil))

abbrev paths (plan : Plan) (adapterId : String) (profile : Profile) : List String :=
  (drafts plan adapterId profile).map Draft.path

lemma path_controller (plan : Plan) (base : List (String × Data)) (d : Domain) :
    (controller plan base d).path = "src/controllers" ++ "/" ++ d.controllerName ++ ".ts" := rfl

lemma fixed_mem (plan : Plan) (adapterId : String) (profile : Profile) : ∀ path ∈ ["src/middleware/auth.ts",
    "src/middleware/errorHandler.ts", "src/transformers/request.ts", "src/transformers/response.ts",
    "src/extensions/pagination.ts"], path ∈ paths plan adapterId profile := by
  simp only [List.forall_mem_cons]
  simp [paths, drafts, Draft.ofTemplate]

lemma controller_mem (hd : d ∈ plan.domains) :
    controller plan (context plan adapterId profile) d ∈ drafts plan adapterId profile := by
  rw [drafts_eq]
  exact List.mem_append_left _ (List.mem_append_right _ (List.mem_map_of_mem hd))

lemma extension_mem (plan : Plan) (adapterId : String) {e : Extension} (he : e ∈ profile.extensions) :
    "src/extensions" ++ "/" ++ e.name ++ ".ts" ∈ paths plan adapterId profile := by
  cases e with
  | pagination => exact fixed_mem plan adapterId profile "src/extensions/pagination.ts" (by simp)
  | offline =>
    have hoffline : profile.offline = true := by simpa [Profile.offline] using he
    have hpath : "src/extensions" ++ "/" ++ Extension.offline.name ++ ".ts" =
        "src/extensions/offline.ts" := by decide
    rw [hpath]
    simp [paths, drafts, hoffline, Draft.ofTemplate]

section

variable (hr : plan.routes = RouteTable.ofDomains plan.domains) (hid : isWord adapterId.toList)
  (h : ∀ d ∈ plan.domains, isWord d.token.toList)

include hr hid h

lemma linked_ofTemplate {template residual : Template} {path : String} {out : List String}
    (hmem : Draft.ofTemplate path template (context plan adapterId profile) ∈ drafts plan adapterId profile)
    (hslice : SlicesTo Linkage.starts (env true true) template residual)
    (hreads : Reads specifier? (.ofContext (context plan adapterId profile)) residual out)
    (hleads : ∀ specifier ∈ out, Leads path (paths plan adapterId profile) specifier) :
    (Draft.ofTemplate path template (context plan adapterId profile)).Linked
      (paths plan adapterId profile) := by
  have hrendered :=
    rendered_drafts hr adapterId profile (fun d hd => Domain.pathParams_getRoute_ne_nil (h d hd)) _ hmem
  exact Draft.linked_ofTemplate hrendered
    (fits_context true true adapterId (fun _ => hid) (fun d hd _ => h d hd) hr profile)
    (by decide) hslice hreads hleads

lemma linked_controller (hd : d ∈ plan.domains) :
    (controller plan (context plan adapterId profile) d).Linked (paths plan adapterId profile) := by
  have hname := notMem_slash (Domain.isWord_controllerName (h d hd))
  have hleads {up name : String} (place : String)
      (hup : follow (Path.parts "src/controllers") (Path.parts up) =
      some (Path.parts place)) (hslash : '/' ∉ name.toList)
      (hpath : place ++ "/" ++ name ++ ".ts" ∈ paths plan adapterId profile) :
      Leads (controller plan (context plan adapterId profile) d).path (paths plan adapterId profile)
        (up ++ "/" ++ name ++ ".js") := by
    refine leads_append hslash ?_ hpath
    rw [path_controller, folder_source _ hname, hup]
  have hfixed := fixed_mem plan adapterId profile
  refine Draft.linked_ofTemplate
    (rendered_drafts hr adapterId profile (fun d hd => Domain.pathParams_getRoute_ne_nil (h d hd)) _
      (controller_mem hd))
    (fits_controllerContext true true adapterId (fun _ => hid) (fun d hd _ => h d hd) hr profile hd
      fun r hroute => fits_wordHandler (h d hd) hroute) (by decide) slicesTo_controller
        (reads_controllerStatements (h d hd)) ?_
  simp only [List.forall_mem_cons]
  exact ⟨leads_of_not (by decide), leads_of_not (by decide), leads_of_not (by decide),
    hleads "src/transformers" (by decide) (by decide) (hfixed "src/transformers/request.ts" (by simp)),
    hleads "src/transformers" (by decide) (by decide) (hfixed "src/transformers/response.ts" (by simp)),
    hleads "src/extensions" (by decide) (by decide) (hfixed "src/extensions/pagination.ts" (by simp)),
    List.forall_mem_nil _⟩

lemma linked_index : (index plan adapterId profile).Linked (paths plan adapterId profile) := by
  refine linked_ofTemplate hr hid h (by simp [drafts]) slicesTo_index (reads_indexStatements h) ?_
  have hauth : Leads "src/index.ts" (paths plan adapterId profile) "./middleware/auth.js" :=
    leads_of_destination (by decide) (fixed_mem plan adapterId profile "src/middleware/auth.ts" (by simp))
  have herrors : Leads "src/index.ts" (paths plan adapterId profile) "./middleware/errorHandler.js" :=
    leads_of_destination (by decide)
      (fixed_mem plan adapterId profile "src/middleware/errorHandler.ts" (by simp))
  simp only [indexSpecifiers, List.forall_mem_cons, List.forall_mem_append, List.forall_mem_flatMap]
  refine ⟨leads_of_not (by decide), fun specifier hspecifier => ?_, hauth, herrors,
    fun d hd => ⟨?_, List.forall_mem_nil _⟩,
    hauth, herrors, fun e he => ⟨?_, List.forall_mem_nil _⟩, List.forall_mem_nil _⟩
  · split at hspecifier
    · obtain rfl := List.mem_singleton.mp hspecifier
      exact leads_of_not (by decide)
    · cases hspecifier
  · exact leads_append (notMem_slash (Domain.isWord_controllerName (h d hd)))
      (by decide : _ = some (Path.parts "src/controllers")) (List.mem_map_of_mem (controller_mem hd))
  · exact leads_append (notMem_slash (isWord_name e)) (by decide : _ = some (Path.parts "src/extensions"))
      (extension_mem plan adapterId he)

lemma linked_leading (hwrapped : profile.envelope = .offlineWrapped → profile.offline) :
    ∀ draft ∈ leading plan adapterId profile, draft.Linked (paths plan adapterId profile) := by
  have hmem : ∀ draft ∈ leading plan adapterId profile, draft ∈ drafts plan adapterId profile :=
    fun draft hdraft => by
    rw [drafts_eq]
    exact List.mem_append_left _ (List.mem_append_left _ hdraft)
  have hexternal {specifier path : String} (hspecifier : isRelative specifier = false) :
      Leads path (paths plan adapterId profile) specifier := leads_of_not hspecifier
  have hoffline : profile.offline → "src/extensions/offline.ts" ∈ paths plan adapterId profile := fun ho =>
    extension_mem plan adapterId (e := .offline) (by simpa [Profile.offline] using ho)
  intro draft hdraft
  have hmem := hmem draft hdraft
  simp only [leading, List.mem_append, List.mem_cons, List.not_mem_nil, or_false] at hdraft
  rcases hdraft with (rfl | rfl | rfl | rfl | rfl | rfl | rfl) | hdraft
  · exact Draft.linked_of_not (by decide : isSource "package.json" = false)
  · exact Draft.linked_of_not (by decide : isSource "tsconfig.json" = false)
  · refine linked_ofTemplate hr hid h hmem (slicesTo_auth _) (.text rfl rfl rfl .nil) ?_
    exact List.forall_mem_singleton.mpr (hexternal (by decide))
  · refine linked_ofTemplate hr hid h hmem slicesTo_errorHandler
      (.text rfl rfl rfl (.text rfl rfl rfl .nil)) ?_
    simp only [List.forall_mem_cons]
    exact ⟨hexternal (by decide), hexternal (by decide), List.forall_mem_nil _⟩
  · refine linked_ofTemplate hr hid h hmem slicesTo_request (.text rfl rfl rfl .nil) ?_
    exact List.forall_mem_singleton.mpr (hexternal (by decide))
  · refine linked_ofTemplate hr hid h hmem (slicesTo_response _) (reads_responseStatements _ _) ?_
    cases henvelope : profile.envelope with
    | plain => exact List.forall_mem_singleton.mpr (hexternal (by decide))
    | offlineWrapped =>
      simp only [responseSpecifiers, List.forall_mem_cons]
      exact ⟨hexternal (by decide), hexternal (by decide),
        leads_of_destination (by decide) (hoffline (hwrapped henvelope)), List.forall_mem_nil _⟩
  · exact linked_ofTemplate hr hid h hmem (slicesTo_pagination _) .nil (List.forall_mem_nil _)
  · split at hdraft
    · obtain rfl := List.mem_singleton.mp hdraft
      refine linked_ofTemplate hr hid h hmem slicesTo_offline (.text rfl rfl rfl .nil) ?_
      exact List.forall_mem_singleton.mpr (hexternal (by decide))
    · cases hdraft

lemma linked_drafts (hwrapped : profile.envelope = .offlineWrapped → profile.offline) :
    ∀ draft ∈ drafts plan adapterId profile, draft.Linked (paths plan adapterId profile) := by
  intro draft hdraft
  rw [drafts_eq, List.mem_append, List.mem_append, List.mem_singleton] at hdraft
  rcases hdraft with (hleading | hcontroller) | rfl
  · exact linked_leading hr hid h hwrapped draft hleading
  · obtain ⟨d, hd, rfl⟩ := List.mem_map.mp hcontroller
    exact linked_controller hr hid h hd
  · exact linked_index hr hid h

end

end AdapterPackage

end ApiScaffold
