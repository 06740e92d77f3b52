import ApiScaffold.Proofs.Api.Spelling
import ApiScaffold.Proofs.Linkage.Core
import ApiScaffold.Proofs.Linkage.Contracts

namespace ApiScaffold

open Template Text Linkage

namespace Linkage

def functionStart : List Char := "export async function ".toList

def interfaceStart : List Char := "export interface ".toList

def between? (start mark line : List Char) : Option String :=
  match readFields start [mark] line with
  | some [name] => some (String.ofList name)
  | _ => none

def function? (line : List Char) : Option String := between? functionStart "(".toList line

def interface? (line : List Char) : Option String := between? interfaceStart " \x7b".toList line

def declaration? (line : List Char) : Option String := (function? line).or (interface? line)

def declarations (source : String) : List String :=
  (linesWith [functionStart, interfaceStart] source).filterMap declaration?

def interfaces (source : String) : List String := (linesWith [interfaceStart] source).filterMap interface?

def useCaseFolder : List Char := "src/use-cases/".toList

def isUseCase (path : String) : Bool := useCaseFolder.isPrefixOf path.toList

variable {name : String}

lemma between?_append {c : Char} (start mark : List Char) (hmark : c ∈ mark.head?) (hname : c ∉ name.toList)
    (after : List Char) : between? start mark (start ++ (name.toList ++ (mark ++ after))) = some name := by
  have hfields : readFields start [mark] (layout start [(name.toList, mark)] ++ after) = some [name.toList] :=
    readFields_layout [(name.toList, mark)] (List.forall_mem_singleton.mpr ⟨c, hmark, hname⟩) start after
  have hline : layout start [(name.toList, mark)] ++ after = start ++ (name.toList ++ (mark ++ after)) := by
    simp [layout]
  rw [between?, ← hline, hfields]
  simp

lemma readFields_of_clash {start other : List Char} (h : clash other start) (marks : List (List Char))
    (rest : List Char) :
    readFields start marks (other ++ rest) = none := by
  have hprefix : start.isPrefixOf (other ++ rest) = false :=
    Bool.eq_false_iff.mpr fun hp => not_prefix_append_of_clash h rest (List.isPrefixOf_iff_prefix.mp hp)
  simp [readFields, hprefix]

lemma between?_of_clash {start other : List Char} (h : clash other start) (mark rest : List Char) :
    between? start mark (other ++ rest) = none := by
  rw [between?, readFields_of_clash h]

lemma interface?_append (h : isWord name.toList) :
    interface? (interfaceStart ++ (name.toList ++ " \x7b".toList)) = some name := by
  have happend := between?_append (c := ' ') interfaceStart " \x7b".toList (by decide)
    (notMem_of_isWord (by decide) h) []
  rwa [List.append_nil] at happend

lemma declaration?_interface (h : isWord name.toList) :
    declaration? (interfaceStart ++ (name.toList ++ " \x7b".toList)) = some name := by
  rw [declaration?, function?, between?_of_clash (by decide), interface?_append h]
  rfl

lemma declaration?_function (h : isWord name.toList) :
    declaration? (functionStart ++ (name.toList ++ "(".toList)) = some name := by
  have happend := between?_append (c := '(') functionStart "(".toList (by decide)
    (notMem_of_isWord (by decide) h) []
  rw [List.append_nil] at happend
  rw [declaration?, function?, happend]
  rfl

lemma reads_declaration {read : List Char → Option String} {scope : Scope} {nodes : List Node} {text : String}
    (start mark : String)
    (h : renderNodes scope nodes = .ok text) (htext : text = start ++ name ++ mark ++ "\n")
    (hname : isWord name.toList) (hstart : '\n' ∉ start.toList) (hmark : '\n' ∉ mark.toList)
    (hread : read (start.toList ++ (name.toList ++ mark.toList)) = some name) :
    Reads read scope nodes [name] := by
  refine .line h (by simp [htext]) ?_ hread
  simp [hstart, hmark, notMem_of_isWord (c := '\n') (by decide) hname]

end Linkage

def ArtifactSet.useCases (s : ArtifactSet) : List Artifact := s.artifacts.filter (isUseCase ·.path)

lemma filter_contains_of_nodup {α β : Type} [BEq β] [LawfulBEq β] {items : List α}
    {f : α → List β} {x : α} {b : β} (hn : (items.flatMap f).Nodup) (hx : x ∈ items) (hb : b ∈ f x) :
    (items.filter fun y => (f y).contains b) = [x] := by
  induction items with
  | nil => cases hx
  | cons y rest ih =>
    simp only [List.filter_cons, List.contains_iff_mem]
    rw [List.flatMap_cons, List.nodup_append] at hn
    obtain ⟨-, hrest, hdisjoint⟩ := hn
    -- The head is either the item, and no other has the value, or it does not have the value.
    rcases List.mem_cons.mp hx with rfl | hx
    · have hnone : (rest.filter fun y => (f y).contains b) = [] := by
        refine List.filter_eq_nil_iff.mpr fun z hz hmem => ?_
        exact hdisjoint b hb b (List.mem_flatMap.mpr ⟨z, hz, List.contains_iff_mem.mp hmem⟩) rfl
      rw [if_pos hb, hnone]
    · have hhead : b ∉ f y := fun hmem => hdisjoint b hmem b (List.mem_flatMap.mpr ⟨x, hx, hb⟩) rfl
      rw [if_neg hhead]
      exact ih hrest hx

namespace CorePackage

open Node

variable {plan : Plan} {d e : Domain} {r q : Route}

def interfaceNodes (closing : String) : List Node := [text "export interface ", name "Op", text closing]

def functionNodes : List Node := [text "export async function ", field "route" ["operation_id"], text "(\n"]

def useCaseDeclarations : RouteKind → Template
  | .list => named (interfaceNodes "Deps \x7b\n" ++ (interfaceNodes "Input \x7b\n" ++
    (interfaceNodes "Result \x7b\n" ++ functionNodes)))
  | .create | .get => named (interfaceNodes "Deps \x7b\n" ++ functionNodes)

set_option maxRecDepth 1000 in
lemma slicesTo_declarations (kind : RouteKind) : SlicesTo [functionStart, interfaceStart] (useCaseEnv true)
    (useCaseTemplate kind) (useCaseDeclarations kind) := by
  cases kind with
  | list | create | get =>
    unfold useCaseDeclarations named interfaceNodes functionNodes useCaseTemplate
    apply SlicesTo.intro
    · cbv
      repeat' constructor
    · cbv

lemma slicesTo_directories_silent :
    SlicesTo [functionStart, interfaceStart] (domainsEnv true) Template.Core.useCasesIndex [] := by
  apply SlicesTo.intro
  · cbv
    repeat' constructor
  · cbv

lemma slicesTo_directory_silent :
    SlicesTo [functionStart, interfaceStart] (routesEnv true) Template.Core.domainUseCasesIndex [] := by
  apply SlicesTo.intro
  · cbv
    repeat' constructor
  · cbv

def declaredNames (r : Route) : List String :=
  match r.kind with
  | .list =>
    [r.useCaseModule ++ "Deps", r.useCaseModule ++ "Input", r.useCaseModule ++ "Result", r.operationId]
  | .create | .get => [r.useCaseModule ++ "Deps", r.operationId]

lemma reads_interfaceNodes (ending : String) {closing : String} (hclosing : closing = ending ++ " \x7b\n")
    (hending : isWord ending.toList) (h : isWord r.useCaseModule.toList) :
    Reads declaration? (useCaseScope d r) (interfaceNodes closing) [r.useCaseModule ++ ending] := by
  have hrender : renderNodes (useCaseScope d r) (interfaceNodes closing) =
      .ok ("export interface " ++ (r.useCaseModule ++ (closing ++ ""))) := by
    simp only [interfaceNodes, renderNodes, name]
    rfl
  have hword := isWord_concat h hending
  exact reads_declaration "export interface " " \x7b" hrender
    (by simp [hclosing, ← String.toList_inj]) hword (by decide) (by decide) (declaration?_interface hword)

lemma reads_functionNodes (h : isWord r.operationId.toList) :
    Reads declaration? (useCaseScope d r) functionNodes [r.operationId] := by
  have hrender : renderNodes (useCaseScope d r) functionNodes =
      .ok ("export async function " ++ (r.operationId ++ ("(\n" ++ ""))) := by
    simp only [functionNodes, renderNodes, field]
    rfl
  exact reads_declaration "export async function " "(" hrender (by simp [← String.toList_inj]) h
    (by decide) (by decide) (declaration?_function h)

lemma reads_useCaseDeclarations (h : isWord d.token.toList) (hr : r ∈ d.routes) :
    Reads declaration? (.ofContext (useCaseContext d r)) (useCaseDeclarations r.kind) (declaredNames r) := by
  have hop := Domain.isWord_operationId h hr
  have hmodule : isWord r.useCaseModule.toList := isWord_capitalize hop
  have hfunction := reads_functionNodes (d := d) hop
  have hdeps := reads_interfaceNodes (d := d) "Deps" rfl (by decide) hmodule
  unfold declaredNames
  cases r.kind with
  | list =>
    have hinput := reads_interfaceNodes (d := d) "Input" rfl (by decide) hmodule
    have hresult := reads_interfaceNodes (d := d) "Result" rfl (by decide) hmodule
    exact reads_named (hdeps.append rfl (hinput.append rfl (hresult.append rfl hfunction)))
  | create | get => exact reads_named (hdeps.append rfl hfunction)

lemma isUseCase_of_clash {front : String} (h : clash front.toList useCaseFolder) (rest : String) :
    isUseCase (front ++ rest) = false := by
  rw [isUseCase, String.toList_append]
  exact Bool.eq_false_iff.mpr fun hp =>
    not_prefix_append_of_clash h rest.toList (List.isPrefixOf_iff_prefix.mp hp)

lemma isUseCase_append (rest : String) : isUseCase ("src/use-cases/" ++ rest) := by
  rw [isUseCase, String.toList_append]
  exact List.isPrefixOf_iff_prefix.mpr (List.prefix_append _ _)

lemma isUseCase_of_mem {draft : Draft} (h : draft ∈ useCases plan d) : isUseCase draft.path := by
  have hpath (name : String) : isUseCase (useCaseDirectory d ++ name) := by
    rw [useCaseDirectory, String.append_assoc, String.append_assoc]
    exact isUseCase_append _
  rcases List.mem_cons.mp h with rfl | h
  · exact hpath "index.ts"
  · obtain ⟨r, -, rfl⟩ := List.mem_map.mp h
    rw [useCase, Draft.ofTemplate, String.append_assoc]
    exact hpath _

def others (plan : Plan) : List Draft :=
  leading plan ++ plan.domains.map model ++
    ([.ofTemplate "src/domain/errors/DomainError.ts" Template.Core.domainError [("errors", domainErrors)],
      ports plan, .ofTemplate "src/ports/pagination.ts" Template.Core.pagination [],
      .ofTemplate "src/ports/IServices.ts" Template.Core.services []] ++ plan.domains.map repository)

lemma drafts_eq_others (plan : Plan) :
    drafts plan = others plan ++ directories plan :: plan.domains.flatMap (useCases plan) := by
  rw [drafts_eq, following, others, ← List.append_assoc]
  rfl

lemma isUseCase_others (plan : Plan) : ∀ draft ∈ others plan, isUseCase draft.path = false := by
  have hports : isUseCase (ports plan).path = false := (by decide : isUseCase "src/ports/index.ts" = false)
  simp only [others, leading, List.forall_mem_append, List.forall_mem_cons, List.forall_mem_map]
  refine ⟨⟨⟨by decide, by decide, (by decide : isUseCase "src/index.ts" = false), List.forall_mem_nil _⟩,
    fun d _ => ?_⟩, ⟨by decide, hports, by decide, by decide, List.forall_mem_nil _⟩, fun d _ => ?_⟩
  · rw [model, Draft.ofTemplate, String.append_assoc]
    exact isUseCase_of_clash (by decide) _
  · rw [repository, Draft.ofTemplate, String.append_assoc]
    exact isUseCase_of_clash (by decide) _

lemma useCases_artifacts (plan : Plan) (package : String) :
    ArtifactSet.useCases ⟨package, (drafts plan).map Draft.artifact⟩ =
    (directories plan :: plan.domains.flatMap (useCases plan)).map Draft.artifact := by
  have hother := List.filter_eq_nil_iff.mpr fun draft hdraft =>
    Bool.eq_false_iff.mp (isUseCase_others plan draft hdraft)
  have hall : ∀ draft ∈ directories plan :: plan.domains.flatMap (useCases plan), isUseCase draft.path := by
    refine List.forall_mem_cons.mpr ⟨(by decide : isUseCase "src/use-cases/index.ts" = true),
      fun draft hdraft => ?_⟩
    obtain ⟨d, -, hd⟩ := List.mem_flatMap.mp hdraft
    exact isUseCase_of_mem hd
  have hfilter : (drafts plan).filter (fun draft => isUseCase draft.path) =
      directories plan :: plan.domains.flatMap (useCases plan) := by
    rw [drafts_eq_others, List.filter_append, hother, List.nil_append, List.filter_eq_self.mpr hall]
  rw [ArtifactSet.useCases, List.filter_map, ← hfilter]
  rfl

def declaredForms : RouteKind → List (String × String)
  | .list => [("List", "sDeps"), ("List", "sInput"), ("List", "sResult"), ("list", "s")]
  | .create => [("Create", "Deps"), ("create", "")]
  | .get => [("Get", "Deps"), ("get", "")]

lemma declaredNames_eq (hr : r ∈ d.routes) : declaredNames r = (declaredForms r.kind).map d.spelled := by
  have hlist : upper 'l' = ['L'] := by decide
  have hcreate : upper 'c' = ['C'] := by decide
  have hget : upper 'g' = ['G'] := by decide
  rcases Domain.eq_of_mem_routes hr with rfl | rfl | rfl <;>
    simp [declaredNames, declaredForms, Domain.spelled, Route.useCaseModule, Domain.listRoute,
      Domain.createRoute,
      Domain.getRoute, Domain.pluralCapitalized_eq, capitalize, ← String.toList_inj, hlist, hcreate, hget]

section

variable (hr : plan.routes = RouteTable.ofDomains plan.domains)
    (h : ∀ d ∈ plan.domains, isWord d.token.toList)

include h

lemma declarations_directories : declarations (directories plan).artifact.content = [] :=
  Draft.filterMap_ofTemplate (rendered_drafts plan _ (by simp [drafts]))
    (fits_domains true fun d hd _ => h d hd) (by decide) (by decide) slicesTo_directories_silent .nil

include hr

lemma declarations_directory (hd : d ∈ plan.domains) :
    declarations (directory plan d).artifact.content = [] :=
  Draft.filterMap_ofTemplate (rendered_drafts plan _ (directory_mem hd)) (fits_directory hr (h d hd))
    (by decide) (by decide)
    slicesTo_directory_silent .nil

lemma declarations_useCase (hd : d ∈ plan.domains) (hroute : r ∈ plan.routesFor d) :
    declarations (useCase d r).artifact.content = declaredNames r := by
  have hmem := mem_routes_of_mem_routesFor hr hroute
  exact Draft.filterMap_ofTemplate (rendered_drafts plan _ (useCase_mem hd hroute))
    (fits_useCase true (fun _ => h d hd) (Domain.fits_route (fun _ => h d hd) hmem (.text _)))
    (by decide) (by decide) (slicesTo_declarations r.kind) (reads_useCaseDeclarations (h d hd) hmem)

lemma declarations_useCases (hn : plan.domains.Nodup) (package : String) :
    (ArtifactSet.useCases ⟨package, (drafts plan).map Draft.artifact⟩).flatMap (declarations ·.content) =
      plan.domains.flatMap fun d => d.routes.flatMap declaredNames := by
  have huse : ∀ d ∈ plan.domains, ((useCases plan d).map Draft.artifact).flatMap (declarations ·.content) =
      d.routes.flatMap declaredNames := by
    intro d hd
    have hroutes : plan.routesFor d = d.routes := by
      rw [Plan.routesFor, hr, RouteTable.routesFor_ofDomains hn hd]
    have hrest : (((plan.routesFor d).map (useCase d)).map Draft.artifact).flatMap (declarations ·.content) =
        (plan.routesFor d).flatMap declaredNames := by
      rw [List.map_map, List.flatMap_map]
      exact List.flatMap_congr fun r hroute => declarations_useCase hr h hd hroute
    rw [← hroutes, ← hrest]
    exact congrArg (· ++ _) (declarations_directory hr h hd)
  rw [useCases_artifacts, List.map_cons, List.flatMap_cons, declarations_directories h, List.nil_append,
    List.map_flatMap, List.flatMap_assoc]
  exact List.flatMap_congr huse

lemma nodup_declarations (hcaps : (plan.domains.map Domain.capitalized).Nodup) (package : String) :
    ((ArtifactSet.useCases ⟨package, (drafts plan).map Draft.artifact⟩).flatMap
      (declarations ·.content)).Nodup := by
  have hforms : ∀ d ∈ plan.domains, d.routes.flatMap declaredNames =
      (declaredForms .list ++ declaredForms .create ++ declaredForms .get).map d.spelled := by
    intro d _
    have hkinds : d.routes.flatMap declaredNames = d.routes.flatMap fun r =>
        (declaredForms r.kind).map d.spelled :=
      List.flatMap_congr fun r hr => declaredNames_eq hr
    rw [hkinds, List.map_append, List.map_append]
    simp [Domain.routes, Domain.listRoute, Domain.createRoute, Domain.getRoute]
  rw [declarations_useCases hr h (.of_map _ hcaps), List.flatMap_congr hforms]
  exact Domain.nodup_spelled hcaps (by decide) (by decide)

lemma declaring_useCase (hcaps : (plan.domains.map Domain.capitalized).Nodup) (hd : d ∈ plan.domains)
    (hroute : r ∈ d.routes) {name : String} (hname : name ∈ declaredNames r) (package : String) :
    ((ArtifactSet.useCases ⟨package, (drafts plan).map Draft.artifact⟩).filter fun a =>
      (declarations a.content).contains name) = [(useCase d r).artifact] := by
  have hroute : r ∈ plan.routesFor d := by
    rw [Plan.routesFor, hr]
    exact RouteTable.mem_routesFor.mpr ⟨hd, hroute⟩
  have hmem : (useCase d r).artifact ∈ ArtifactSet.useCases ⟨package, (drafts plan).map Draft.artifact⟩ := by
    rw [useCases_artifacts]
    refine List.mem_map_of_mem (List.mem_cons_of_mem _ (List.mem_flatMap.mpr ⟨d, hd, ?_⟩))
    exact List.mem_cons_of_mem _ (List.mem_map_of_mem hroute)
  have hdeclared : name ∈ declarations (useCase d r).artifact.content := by
    rwa [declarations_useCase hr h hd hroute]
  exact filter_contains_of_nodup (nodup_declarations hr h hcaps package) hmem hdeclared

end

end CorePackage

namespace ContractsPackage

open Node

variable {plan : Plan} {d : Domain}

def requestNodes : List Node :=
  [text "export interface Create", field "domain" ["capitalized"], text "Request \x7b\n"]

def responseNodes : List Node :=
  [text "export interface ", field "domain" ["capitalized"], text "Response \x7b\n"]

def interfaceNodes : Template :=
  [forEach "domain" (var "domains") (requestNodes ++ responseNodes) [],
    text "export interface ApiError \x7b\n"]

lemma slicesTo_interfaceNodes : SlicesTo [interfaceStart]
    (typesEnv true) Template.Contracts.index interfaceNodes := by
  unfold interfaceNodes requestNodes responseNodes
  apply SlicesTo.intro
  · cbv
    repeat' constructor
  · cbv

lemma renderNodes_requestNodes (scope : Scope) (d : Domain) :
    renderNodes (scope.bind "domain" d.toData) requestNodes =
    .ok ("export interface Create" ++ (d.capitalized ++ ("Request \x7b\n" ++ ""))) := by
  simp only [requestNodes, renderNodes, field]
  rfl

lemma renderNodes_responseNodes (scope : Scope) (d : Domain) :
    renderNodes (scope.bind "domain" d.toData) responseNodes =
    .ok ("export interface " ++ (d.capitalized ++ ("Response \x7b\n" ++ ""))) := by
  simp only [responseNodes, renderNodes, field]
  rfl

lemma reads_requestNodes (scope : Scope) (h : isWord d.token.toList) :
    Reads interface? (scope.bind "domain" d.toData) requestNodes [d.createRequestName] := by
  have hword := Domain.isWord_createRequestName h
  exact reads_declaration "export interface " " \x7b" (renderNodes_requestNodes scope d)
    (by simp [Domain.createRequestName_eq, ← String.toList_inj]) hword (by decide) (by decide)
    (interface?_append hword)

lemma reads_responseNodes (scope : Scope) (h : isWord d.token.toList) :
    Reads interface? (scope.bind "domain" d.toData) responseNodes [d.responseName] := by
  have hword : isWord d.responseName.toList := isWord_concat (Domain.isWord_capitalized h) (by decide)
  exact reads_declaration "export interface " " \x7b" (renderNodes_responseNodes scope d)
    (by simp [Domain.responseName_eq, ← String.toList_inj]) hword (by decide) (by decide)
    (interface?_append hword)

lemma interfaces_index (h : ∀ d ∈ plan.domains, isWord d.token.toList) :
    interfaces (index plan).artifact.content =
    (plan.domains.flatMap fun d => [d.createRequestName, d.responseName]) ++ ["ApiError"] := by
  have hloop : (var "domains").data (.ofContext (typesContext plan.domains)) =
      .ok (.list (plan.domains.map Domain.toData)) :=
    rfl
  refine Draft.filterMap_ofTemplate (rendered_drafts plan _ (by simp [drafts]))
    (fits_types true fun d hd _ => h d hd) (by decide) (by decide) slicesTo_interfaceNodes
      (.forEach hloop (fun d hd last => ?_) (.text rfl rfl rfl .nil))
  exact (reads_requestNodes _ (h d hd)).append rfl (reads_responseNodes _ (h d hd))

lemma count_createRequestName (h : ∀ d ∈ plan.domains, isWord d.token.toList)
    (hcaps : (plan.domains.map Domain.capitalized).Nodup) (hd : d ∈ plan.domains) :
    (interfaces (index plan).artifact.content).count d.createRequestName = 1 := by
  have hnodup : (plan.domains.flatMap fun d => [d.createRequestName, d.responseName]).Nodup := by
    rw [← List.flatMap_congr fun d _ => d.spelled_schemaForms]
    exact Domain.nodup_spelled hcaps (by decide) (by decide)
  have hmem : d.createRequestName ∈ plan.domains.flatMap fun d => [d.createRequestName, d.responseName] :=
    List.mem_flatMap.mpr ⟨d, hd, List.mem_cons_self⟩
  have hother : d.createRequestName ∉ ["ApiError"] := by
    rw [List.mem_singleton]
    exact ne_of_clash_reverse (p := "Request") (q := "Error") (by decide) _ "Api"
  rw [interfaces_index h, List.count_append, List.count_eq_one_of_mem hnodup hmem,
    List.count_eq_zero_of_not_mem hother]

end ContractsPackage

end ApiScaffold
