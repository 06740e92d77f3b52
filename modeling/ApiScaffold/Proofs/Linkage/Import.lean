import ApiScaffold.Proofs.Linkage.Adapter
import ApiScaffold.Proofs.Linkage.Declaration
import ApiScaffold.Proofs.Linkage.Export

namespace ApiScaffold

open Template Text Chain Linkage

namespace Linkage

structure Clause where
  names : List String
  module : String

inductive Event where
  | clause (c : Clause)
  | opened
  | item (name : String)
  | closed (module : String)

def clauseStart : List Char := "import \x7b".toList

def inlineStart : List Char := "import \x7b ".toList

def closingStart : List Char := "\x7d from '".toList

def itemStart : List Char := "  ".toList

def listed (inner : List Char) : List String :=
  (splitAt ',' inner).map fun part => String.ofList (part.dropWhile (· = ' '))

def event? (line : List Char) : Option Event :=
  if line = clauseStart then some .opened
  else match readFields inlineStart [" \x7d from '".toList, "';".toList] line with
  | some [inner, module] => some (.clause ⟨listed inner, String.ofList module⟩)
  | _ => match between? closingStart "';".toList line with
    | some module => some (.closed module)
    | none => (between? itemStart ",".toList line).map .item

def clauses : Option (List String) → List Event → List Clause
  | _, [] => []
  | none, .clause c :: rest => c :: clauses none rest
  | none, .opened :: rest => clauses (some []) rest
  | none, .item _ :: rest | none, .closed _ :: rest => clauses none rest
  | some names, .item name :: rest => clauses (some (names ++ [name])) rest
  | some names, .closed module :: rest => ⟨names, module⟩ :: clauses none rest
  | some names, .clause _ :: rest | some names, .opened :: rest => clauses (some names) rest

def events (source : String) : List Event := (lines source).filterMap event?

def importedFrom (module source : String) : List String :=
  ((clauses none (events source)).filter (·.module = module)).flatMap Clause.names

variable {name : String}

lemma clauses_items (names items : List String) (rest : List Event) :
    clauses (some names) (items.map .item ++ rest) = clauses (some (names ++ items)) rest := by
  induction items generalizing names with
  | nil => simp
  | cons item items ih =>
    rw [List.map_cons, List.cons_append, clauses, ih]
    simp

example :
    let source := "import \x7b\n  a,\n  b,\n\x7d from 'm';\n" ++ "import \x7b c, d \x7d from 'm';\n" ++
      "import \x7b e \x7d from 'n';\n"
    importedFrom "m" source = ["a", "b", "c", "d"] := by decide +kernel

lemma clauses_of_items {es : List Event} (h : ∀ e ∈ es, ∃ name, e = .item name) : clauses none es = [] := by
  induction es with
  | nil => rfl
  | cons e rest ih =>
    obtain ⟨⟨name, rfl⟩, hrest⟩ := List.forall_mem_cons.mp h
    exact ih hrest

lemma prefix_of_readFields {start line : List Char} {marks texts : List (List Char)}
    (h : readFields start marks line = some texts) : start.isPrefixOf line := by
  unfold readFields at h
  split at h
  · assumption
  · cases h

lemma prefix_of_between? {start mark line : List Char} (h : between? start mark line = some name) :
    start.isPrefixOf line := by
  unfold between? at h
  split at h
  · rename_i hfields
    exact prefix_of_readFields hfields
  · cases h

lemma item_of_event {line : List Char} {e : Event} (h : event? line = some e)
    (hstart : startsWithOne [clauseStart, closingStart] line = false) : ∃ name, e = .item name := by
  simp only [startsWithOne, List.any_cons, List.any_nil, Bool.or_false, Bool.or_eq_false_iff] at hstart
  obtain ⟨hclause, hclosing⟩ := hstart
  unfold event? at h
  split at h
  · rename_i hline
    rw [hline] at hclause
    exact absurd hclause (by decide)
  · split at h
    · rename_i hfields
      have hinline : inlineStart <+: line := List.isPrefixOf_iff_prefix.mp (prefix_of_readFields hfields)
      have hopening : clauseStart <+: inlineStart := by decide
      rw [List.isPrefixOf_iff_prefix.mpr (hopening.trans hinline)] at hclause
      cases hclause
    · split at h
      · rename_i hbetween
        rw [prefix_of_between? hbetween] at hclosing
        cases hclosing
      · obtain ⟨name, -, rfl⟩ := Option.map_eq_some_iff.mp h
        exact ⟨name, rfl⟩

lemma event?_item (h : isWord name.toList) :
    event? (itemStart ++ (name.toList ++ ",".toList)) = some (.item name) := by
  have hitem := between?_append (c := ',') itemStart ",".toList (by decide)
    (notMem_of_isWord (by decide) h) []
  rw [List.append_nil] at hitem
  have hopen : itemStart ++ (name.toList ++ ",".toList) ≠ clauseStart := fun heq =>
    not_prefix_append_of_clash (s := itemStart) (t := clauseStart) (by decide) _ (by rw [heq])
  rw [event?, if_neg hopen, readFields_of_clash (by decide), between?_of_clash (by decide), hitem]
  rfl

def clauseLine (name module : String) : List Char :=
  layout inlineStart [(name.toList, " \x7d from '".toList), (module.toList, "';".toList)]

lemma listed_of_isWord (h : isWord name.toList) : listed name.toList = [name] := by
  have hspace : ' ' ∉ name.toList := notMem_of_isWord (by decide) h
  have hdrop : name.toList.dropWhile (· = ' ') = name.toList := by
    cases hname : name.toList with
    | nil => rfl
    | cons c rest =>
      have hc : c ≠ ' ' := by
        rintro rfl
        exact hspace (hname ▸ List.mem_cons_self)
      simp [hc]
  rw [listed, splitAt_of_notMem (notMem_of_isWord (by decide) h), List.map_singleton, hdrop,
    String.ofList_toList]

lemma event?_clauseLine {module : String} (h : isWord name.toList) (hmodule : '\'' ∉ module.toList) :
    event? (clauseLine name module) = some (.clause ⟨[name], module⟩) := by
  have hopen : clauseLine name module ≠ clauseStart := by
    intro heq
    have hlength := congrArg List.length heq
    have hinline : inlineStart.length = 9 := by decide
    have hclause : clauseStart.length = 8 := by decide
    rw [clauseLine, layout, List.length_append] at hlength
    omega
  have hfields : readFields inlineStart [" \x7d from '".toList, "';".toList] (clauseLine name module ++ []) =
      some [name.toList, module.toList] := by
    refine readFields_layout [(_, _), (_, _)] ?_ _ []
    simp only [List.forall_mem_cons]
    exact ⟨⟨' ', by decide, notMem_of_isWord (by decide) h⟩, ⟨'\'', by decide, hmodule⟩,
      List.forall_mem_nil _⟩
  rw [List.append_nil] at hfields
  rw [event?, if_neg hopen, hfields]
  simp only [listed_of_isWord h, String.ofList_toList]

lemma reads_clause {scope : Scope} {nodes : List Node} {text module : String}
    (hrender : renderNodes scope nodes = .ok text)
    (htext : text = "import \x7b " ++ name ++ " \x7d from '" ++ module ++ "';\n") (h : isWord name.toList)
    (hmodule : Plain module) :
    Reads event? scope nodes [.clause ⟨[name], module⟩] := by
  have hline : text.toList = clauseLine name module ++ ['\n'] := by
    rw [htext]
    unfold clauseLine inlineStart
    simp [layout]
  have hread := event?_clauseLine h hmodule.2
  refine Reads.line hrender hline (notMem_layout (by decide) ?_) hread
  simp only [List.forall_mem_cons]
  exact ⟨⟨notMem_of_isWord (by decide) h, by decide⟩, ⟨hmodule.1, by decide⟩, List.forall_mem_nil _⟩

lemma reads_item {scope : Scope} {nodes : List Node} {text : String}
    (hrender : renderNodes scope nodes = .ok text)
    (htext : text = "  " ++ name ++ ",\n") (h : isWord name.toList) :
    Reads event? scope nodes [.item name] := by
  have hline : text.toList = (itemStart ++ (name.toList ++ ",".toList)) ++ ['\n'] := by
    rw [htext]
    simp [itemStart]
  refine Reads.line hrender hline ?_ (event?_item h)
  simp [itemStart, notMem_of_isWord (c := '\n') (by decide) h]

end Linkage

def Route.importedNames (r : Route) : List String := [r.operationId, r.useCaseModule ++ "Deps"]

namespace AdapterPackage

open Node

variable {plan : Plan} {d : Domain} {r : Route}

def itemNodes : List Node := [
  text "  ", field "handler" ["route", "operation_id"], text ",\n", text "  ",
    field "handler" ["deps_type"], text ",\n"]

def importNodes : List Node :=
  text "import \x7b Router, Request, Response, NextFunction \x7d from 'express';\n" :: text "import \x7b\n" ::
  forEach "handler" (var "handlers") itemNodes [] :: text "\x7d from '@corebridge/core';\n" ::
    (requestImport ++ [
    text "import \x7b transformRequest \x7d from '../transformers/request.js';\n",
    text "import \x7b sendResponse, sendCreated \x7d from '../transformers/response.js';\n",
    paginationImport])

variable (hr : plan.routes = RouteTable.ofDomains plan.domains)
    (h : ∀ d ∈ plan.domains, isWord d.token.toList)

def paginationNames (cursor : Bool) : List String :=
  if cursor then ["parseCursorPagination", "wrapCursorPagination"]
    else ["parseOffsetPagination", "wrapOffsetPagination"]

def importEvents (routes : List Route) (d : Domain) (cursor : Bool) : List Event :=
  .clause ⟨["Router", "Request", "Response", "NextFunction"], "express"⟩ :: .opened ::
  ((routes.flatMap Route.importedNames).map .item ++
  .closed "@corebridge/core" :: ([.clause ⟨[d.createRequestName], "@corebridge/contracts"⟩] ++
  [.clause ⟨["transformRequest"], "../transformers/request.js"⟩,
    .clause ⟨["sendResponse", "sendCreated"], "../transformers/response.js"⟩,
    .clause ⟨paginationNames cursor, "../extensions/pagination.js"⟩]))

lemma reads_itemNodes (scope : Scope) (h : isWord r.operationId.toList) :
    Reads event? (scope.bind "handler" (handlerData r)) itemNodes
      [.item r.operationId, .item (r.useCaseModule ++ "Deps")] := by
  have hop : renderNodes (scope.bind "handler" (handlerData r))
      [text "  ", field "handler" ["route", "operation_id"], text ",\n"] =
      .ok ("  " ++ (r.operationId ++ (",\n" ++ ""))) := by
    simp only [renderNodes, field]
    rfl
  have hdeps : renderNodes (scope.bind "handler" (handlerData r))
      [text "  ", field "handler" ["deps_type"], text ",\n"] =
      .ok ("  " ++ (r.useCaseModule ++ "Deps" ++ (",\n" ++ ""))) := by
    simp only [renderNodes, field]
    rfl
  have hmodule : isWord (r.useCaseModule ++ "Deps").toList := isWord_concat (isWord_capitalize h) (by decide)
  exact (reads_item hop (by simp [← String.toList_inj]) h).append rfl
    (reads_item hdeps (by simp [← String.toList_inj]) hmodule)

lemma reads_importNodes (adapterId : String) (profile : Profile) (h : isWord d.token.toList)
    (hroutes : ∀ r ∈ plan.routesFor d, r ∈ d.routes) :
    Reads event? (.ofContext (controllerContext plan d ++ context plan adapterId profile)) importNodes
      (importEvents (plan.routesFor d) d (profile.pagination = .cursor)) := by
  have hhandlers :
      (var "handlers").data (.ofContext (controllerContext plan d ++ context plan adapterId profile)) =
      .ok (.list ((plan.routesFor d).map handlerData)) := rfl
  have hcursor : (Condition.holds (var "cursor")).eval
      (.ofContext (controllerContext plan d ++ context plan adapterId profile)) =
      .ok (decide (profile.pagination = .cursor)) := rfl
  have hpagination : Reads event? (.ofContext (controllerContext plan d ++ context plan adapterId profile))
      [paginationImport]
      ([.clause ⟨paginationNames (profile.pagination = .cursor), "../extensions/pagination.js"⟩] ++ []) := by
    refine .when hcursor ?_ .nil
    cases decide (profile.pagination = .cursor) with
    | true | false => exact .text rfl rfl rfl .nil
  rw [importEvents, List.map_flatMap]
  refine .text rfl rfl rfl
    (.text rfl rfl rfl (.forEach hhandlers (fun r hroute last => reads_itemNodes _ ?_) ?_))
  · exact Domain.isWord_operationId h (hroutes r hroute)
  · refine .text rfl rfl rfl (.append rfl ?_ ?_)
    · have hrender :
          renderNodes (.ofContext (controllerContext plan d ++ context plan adapterId profile))
            requestImport =
          .ok ("import \x7b " ++
            (d.createRequestName ++ (" \x7d from '@corebridge/contracts';\n" ++ ""))) := by
        simp only [requestImport, renderNodes, name]
        rfl
      exact reads_clause hrender (by simp [← String.toList_inj]) (Domain.isWord_createRequestName h)
        (plain_of_chars rfl rfl)
    · exact .text rfl rfl rfl (.text rfl rfl rfl hpagination)

def controllerBody : List Node := Template.Adapter.controller.drop 10

lemma controller_eq : Template.Adapter.controller = importNodes ++ controllerBody :=
  (List.take_append_drop 10 Template.Adapter.controller).symm

set_option maxRecDepth 1000 in
lemma slicesTo_controllerBody : SlicesTo [clauseStart, closingStart]
    (controllerEnv false true (handlerShape true .word (.list .word))) controllerBody [] := by
  unfold controllerBody
  apply SlicesTo.intro
  · cbv
    repeat' constructor
  · cbv

section

include hr h

lemma events_controller (adapterId : String) (profile : Profile) (hd : d ∈ plan.domains) :
    ∃ items : List Event, (∀ e ∈ items, ∃ name, e = .item name) ∧
    events (controllerArtifact plan adapterId profile d).content =
      importEvents (plan.routesFor d) d (profile.pagination = .cursor) ++ items := by
  have hroutes : ∀ r ∈ plan.routesFor d, r ∈ d.routes := by
    rw [Plan.routesFor, hr]
    exact fun r hroute => (RouteTable.mem_routesFor.mp hroute).2
  have hfits :=
    fits_controllerContext false true adapterId (absurd · (by decide)) (fun d hd _ => h d hd) hr profile hd
    fun r hroute => fits_wordHandler (h d hd) hroute
  have hrender : Template.render Template.Adapter.controller
      (controllerContext plan d ++ context plan adapterId profile) =
      .ok (controllerArtifact plan adapterId profile d).content := render_controller hr h hd
  obtain ⟨ls, hhead, hls, hread⟩ := reads_importNodes adapterId profile (h d hd) hroutes
  rw [hfits.render (by decide), controller_eq, renderNodes_append rfl, hhead] at hrender
  obtain ⟨body, hbody, hcontent⟩ := map_eq_ok.mp hrender
  obtain ⟨kept, hkept, hlines⟩ := slicesTo_controllerBody.exists_render (by decide) hfits.scope hbody
  -- Nothing is kept of the body: none of its lines opens a clause or closes one.
  rw [renderNodes] at hkept
  cases hkept
  refine ⟨events body, fun e he => ?_, ?_⟩
  · obtain ⟨line, hline, hevent⟩ := List.mem_filterMap.mp he
    exact item_of_event hevent (Bool.eq_false_iff.mpr (List.filter_eq_nil_iff.mp hlines.symm line hline))
  · rw [events, ← hcontent, lines_append hls, List.filterMap_append, hread, events]

lemma clauses_controller (adapterId : String) (profile : Profile) (hd : d ∈ plan.domains) :
    clauses none (events (controllerArtifact plan adapterId profile d).content) =
    [⟨["Router", "Request", "Response", "NextFunction"], "express"⟩,
      ⟨(plan.routesFor d).flatMap Route.importedNames, "@corebridge/core"⟩,
      ⟨[d.createRequestName], "@corebridge/contracts"⟩,
      ⟨["transformRequest"], "../transformers/request.js"⟩,
      ⟨["sendResponse", "sendCreated"], "../transformers/response.js"⟩,
      ⟨paginationNames (profile.pagination = .cursor), "../extensions/pagination.js"⟩] := by
  obtain ⟨items, hitems, hevents⟩ := events_controller hr h adapterId profile hd
  rw [hevents, importEvents]
  simp only [List.cons_append, List.append_assoc, clauses, clauses_items, clauses_of_items hitems,
    List.nil_append]

lemma importedFrom_core (adapterId : String) (profile : Profile) (hd : d ∈ plan.domains) :
    importedFrom "@corebridge/core"
    (controllerArtifact plan adapterId profile d).content =
      (plan.routesFor d).flatMap Route.importedNames := by
  rw [importedFrom, clauses_controller hr h adapterId profile hd]
  simp

lemma importedFrom_contracts (adapterId : String) (profile : Profile) (hd : d ∈ plan.domains) :
    importedFrom "@corebridge/contracts"
    (controllerArtifact plan adapterId profile d).content = [d.createRequestName] := by
  rw [importedFrom, clauses_controller hr h adapterId profile hd]
  simp

end

end AdapterPackage

lemma CorePackage.mem_declaredNames {r : Route} {name : String} (h : name ∈ r.importedNames) :
    name ∈ declaredNames r := by
  rw [Route.importedNames, List.mem_cons, List.mem_singleton] at h
  unfold declaredNames
  rcases h with rfl | rfl
  · cases r.kind <;> simp
  · cases r.kind <;> simp

def ArtifactSet.declaring (s : ArtifactSet) (name : String) : List Artifact :=
  s.useCases.filter fun a => (declarations a.content).contains name

namespace Linkage

/-- What a controller imports is there: each name of the core in one use case that the index of the core
reaches, and the type of the request once in the types of the contracts. -/
structure Supplied (core : ArtifactSet) (types : String) (d : Domain) (controller : Artifact) : Prop where
  core_names : importedFrom "@corebridge/core" controller.content = d.routes.flatMap Route.importedNames
  declared : ∀ name ∈ importedFrom "@corebridge/core" controller.content, ∃ useCase,
    core.declaring name = [useCase] ∧
    List.IsChain core.Exports
      ["src/index.ts", "src/use-cases/index.ts", "src/use-cases/" ++ d.token ++ "/index.ts", useCase.path]
  contract_names : importedFrom "@corebridge/contracts" controller.content = [d.createRequestName]
  once : (interfaces types).count d.createRequestName = 1

theorem controllers_supplied (config : Config) (adapterId : String)
    (htokens : ∀ token ∈ config.domains, isIdentifier token) (hcaps : (config.domains.map capitalize).Nodup) :
    ∃ core contracts adapter types, CorePackage.generate (Plan.ofConfig config) = .ok core ∧
      ContractsPackage.generate (Plan.ofConfig config) = .ok contracts ∧
      AdapterPackage.generate (Plan.ofConfig config) adapterId = .ok adapter ∧
      contracts.get "src/index.ts" = .ok types ∧
      List.Forall₂ (Supplied core types) (Plan.ofConfig config).domains (Surface.controllers adapter) := by
  have hr : (Plan.ofConfig config).routes = RouteTable.ofDomains (Plan.ofConfig config).domains := rfl
  have hwords := Plan.forall_domains_ofConfig fun token htoken =>
    isWord_of_isIdentifier (htokens token htoken)
  have hnames := Plan.forall_domains_ofConfig fun token htoken =>
    Path.isName_of_isIdentifier (htokens token htoken)
  rw [← Plan.capitalized_ofConfig] at hcaps
  have hn : (Plan.ofConfig config).domains.Nodup := .of_map _ hcaps
  have hcore := CorePackage.generate_eq_ok hr hcaps fun d hd => (hnames d hd).2.2.2
  have hcontracts := ContractsPackage.generate_eq_ok hcaps
  have hadapter :=
    AdapterPackage.generate_eq_ok hr adapterId
      (fun d hd => Domain.pathParams_getRoute_ne_nil (hwords d hd)) hcaps
  have htypes := ArtifactSet.get_ofDrafts (d := ContractsPackage.index (Plan.ofConfig config))
    (ContractsPackage.nodup_drafts hcaps)
    (by simp [ContractsPackage.drafts, ContractsPackage.index]) PackageName.contracts
  refine ⟨_, _, _, _, hcore, hcontracts, hadapter, htypes, ?_⟩
  rw [AdapterPackage.controllers_artifacts, List.forall₂_map_right_iff, List.forall₂_same]
  intro d hd
  have hroutes : (Plan.ofConfig config).routesFor d = d.routes := by
    rw [Plan.routesFor, hr, RouteTable.routesFor_ofDomains hn hd]
  have himported := AdapterPackage.importedFrom_core hr hwords adapterId (Profile.resolve adapterId) hd
  rw [hroutes] at himported
  refine ⟨himported, fun name hname => ?_, AdapterPackage.importedFrom_contracts hr hwords adapterId _ hd,
    ContractsPackage.count_createRequestName hwords hcaps hd⟩
  rw [himported] at hname
  obtain ⟨r, hroute, hname⟩ := List.mem_flatMap.mp hname
  refine ⟨_, CorePackage.declaring_useCase hr hwords hcaps hd hroute
    (CorePackage.mem_declaredNames hname) PackageName.core, ?_⟩
  have hdirectory : (CorePackage.directory (Plan.ofConfig config) d).path =
      "src/use-cases/" ++ d.token ++ "/index.ts" := by
    simp [CorePackage.directory, CorePackage.useCaseDirectory, Draft.ofTemplate, ← String.toList_inj]
  rw [← hdirectory]
  exact CorePackage.exports_useCase hwords hr hd (hnames d hd) (hroutes ▸ hroute) PackageName.core

theorem controllers_supplied_users :
    (∀ token ∈ ["user", "users"], isIdentifier token) ∧ (["user", "users"].map capitalize).Nodup ∧
    ∃ core contracts adapter types, CorePackage.generate (Plan.ofConfig { domains := ["user", "users"] }) =
      .ok core ∧
      ContractsPackage.generate (Plan.ofConfig { domains := ["user", "users"] }) = .ok contracts ∧
      AdapterPackage.generate (Plan.ofConfig { domains := ["user", "users"] }) "my adapter" = .ok adapter ∧
      contracts.get "src/index.ts" = .ok types ∧
      List.Forall₂ (Supplied core types) [⟨"user"⟩, ⟨"users"⟩] (Surface.controllers adapter) :=
  ⟨by decide, by decide,
    controllers_supplied { domains := ["user", "users"] } "my adapter" (by decide) (by decide)⟩

end Linkage

end ApiScaffold
