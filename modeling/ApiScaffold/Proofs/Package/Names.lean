import ApiScaffold.Proofs.Linkage.Declaration
import ApiScaffold.Proofs.Package.Offline

namespace ApiScaffold

open Template Text Chain

structure Interface where
  name : String
  fields : List Field

namespace Interface

def member (f : Field) : String := "  " ++ (f.name ++ (": " ++ (f.tsType ++ (";\n" ++ ""))))

def text (i : Interface) : String :=
  "export interface " ++ i.name ++ " \x7b\n" ++ String.join (i.fields.map member) ++ "\x7d\n"

end Interface

def Domain.interfaces (d : Domain) : List Interface :=
  [⟨d.createRequestName, Field.creation⟩, ⟨d.responseName, Field.entity⟩]

namespace ContractsPackage

open Node

variable {scope : Scope} {n : String}

def domainTypes (d : Domain) : String :=
  "\n// ============ " ++ d.capitalized ++ " Types ============\n" ++
    String.join (d.interfaces.map fun i => "\n" ++ i.text)

def errorTypes : String :=
  "\n// ============ Error Types ============\n\n" ++
  "export type ErrorCode = 'VALIDATION_ERROR' | 'NOT_FOUND' | 'RESOURCE_EXISTS' | 'UNAUTHORIZED' | 'FORBIDDEN';\n\n" ++
  "export interface ApiError \x7b\n  code: ErrorCode;\n  message: string;\n\x7d\n\n" ++
  "export * from './routes.js';\n"

def types (domains : List Domain) : String :=
  "// Generated TypeScript types from OpenAPI/JSON Schema\n" ++
    (String.join (domains.map domainTypes) ++ errorTypes)

def headingNodes : Template :=
  [text "\n", text "// ============ ", field "domain" ["capitalized"],
    text " Types ============\n", text "\n"]

def memberNodes (n : String) : Template :=
  [forEach "field" (var n) [
      text "  ", field "field" ["name"], text ": ", field "field" ["ts_type"], text ";\n"] []] ++
    [text "\x7d\n"]

def domainNodes : Template :=
  headingNodes ++
    (requestNodes ++
      (memberNodes "create_fields" ++ ([text "\n"] ++ (responseNodes ++ memberNodes "fields"))))

def codeNodes : Template := [
  text "'", name "code", text "'", when (.fails (.path "loop" ["last"])) [text " | "] []]

def errorNodes : Template := [
    text "\n", text "// ============ Error Types ============\n", text "\n",
    text "export type ErrorCode = "] ++
  ([forEach "code" (var "error_codes") codeNodes []] ++ [
    text ";\n", text "\n", text "export interface ApiError \x7b\n", text "  code: ErrorCode;\n",
    text "  message: string;\n", text "\x7d\n", text "\n", text "export * from './routes.js';\n"])

lemma index_eq : Template.Contracts.index =
    [text "// Generated TypeScript types from OpenAPI/JSON Schema\n"] ++
    ([forEach "domain" (var "domains") domainNodes []] ++ errorNodes) := rfl

lemma renderNodes_memberNodes {fields : List Field}
    (h : (var n).data scope = .ok (.list (fields.map fieldData))) :
    renderNodes scope (memberNodes n) = .ok (String.join (fields.map Interface.member) ++ "\x7d\n") := by
  have hclosing : renderNodes scope [text "\x7d\n"] = .ok "\x7d\n" := by simp [renderNodes]
  refine renderNodes_ok_append (renderNodes_loop h fun f _ last => ?_) hclosing rfl
  simp only [renderNodes, field]
  rfl

lemma renderNodes_domainNodes
    (hcreation : (var "create_fields").data scope = .ok (.list (Field.creation.map fieldData)))
    (hentity : (var "fields").data scope = .ok (.list (Field.entity.map fieldData))) (d : Domain) :
    renderNodes (scope.bind "domain" d.toData) domainNodes = .ok (domainTypes d) := by
  have hheading : renderNodes (scope.bind "domain" d.toData) headingNodes =
      .ok ("\n" ++ ("// ============ " ++ (d.capitalized ++ (" Types ============\n" ++ ("\n" ++ ""))))) := by
    simp only [headingNodes, renderNodes, field]
    rfl
  have hblank : renderNodes (scope.bind "domain" d.toData) [text "\n"] = .ok "\n" := by simp [renderNodes]
  have hc : (var "create_fields").data (scope.bind "domain" d.toData) =
      .ok (.list (Field.creation.map fieldData)) := hcreation
  have he : (var "fields").data (scope.bind "domain" d.toData) = .ok (.list (Field.entity.map fieldData)) :=
    hentity
  have hdomain := renderNodes_ok_append hheading (renderNodes_ok_append (renderNodes_requestNodes scope d)
    (renderNodes_ok_append (renderNodes_memberNodes hc) (renderNodes_ok_append hblank
      (renderNodes_ok_append (renderNodes_responseNodes scope d) (renderNodes_memberNodes he) rfl) rfl) rfl)
        rfl) rfl
  refine hdomain.trans (congrArg Except.ok ?_)
  unfold domainTypes Domain.interfaces Interface.text
  rw [List.map_cons, List.map_cons, List.map_nil]
  generalize String.join (Field.creation.map Interface.member) = creation
  generalize String.join (Field.entity.map Interface.member) = entity
  simp [Domain.createRequestName_eq, Domain.responseName_eq, ← String.toList_inj]

def codeText (code : String × Bool) : String :=
  "'" ++ (code.1 ++ ("'" ++ ((if code.2 then "" else " | " ++ "") ++ "")))

lemma renderNodes_codeNodes (scope : Scope) (code : String) (last : Bool) :
    renderNodes ((scope.bind "loop" (loopData last)).bind "code" (.string code)) codeNodes =
      .ok (codeText (code, last)) := by
  cases last with
  | false | true =>
    simp only [codeNodes, renderNodes, name]
    rfl

lemma renderNodes_errorNodes (h : (var "error_codes").data scope = .ok (.strings errorCodes)) :
    renderNodes scope errorNodes = .ok errorTypes := by
  have hopening : renderNodes scope [text "\n", text "// ============ Error Types ============\n", text "\n",
      text "export type ErrorCode = "] =
      .ok ("\n" ++
        ("// ============ Error Types ============\n" ++ ("\n" ++ ("export type ErrorCode = " ++ "")))) := by
    simp only [renderNodes]
    rfl
  have hclosing : renderNodes scope [
      text ";\n", text "\n", text "export interface ApiError \x7b\n", text "  code: ErrorCode;\n",
      text "  message: string;\n", text "\x7d\n", text "\n", text "export * from './routes.js';\n"] =
      .ok (";\n" ++
        ("\n" ++ ("export interface ApiError \x7b\n" ++ ("  code: ErrorCode;\n" ++ ("  message: string;\n" ++
        ("\x7d\n" ++ ("\n" ++ ("export * from './routes.js';\n" ++ "")))))))) := by
    simp only [renderNodes]
    rfl
  have hcodes : renderNodes scope [forEach "code" (var "error_codes") codeNodes []] =
      .ok (String.join ((withLast errorCodes).map codeText)) :=
    renderNodes_loop_last h fun code _ last => renderNodes_codeNodes scope code last
  have hall := renderNodes_ok_append hopening (renderNodes_ok_append hcodes hclosing rfl) rfl
  rw [errorNodes, hall, Except.ok.injEq]
  decide +kernel

lemma content_index (plan : Plan) : (index plan).content = .ok (types plan.domains) := by
  have hopening : renderNodes (.ofContext (typesContext plan.domains))
      [text "// Generated TypeScript types from OpenAPI/JSON Schema\n"] =
      .ok "// Generated TypeScript types from OpenAPI/JSON Schema\n" := by
    simp [renderNodes]
  have hdomains : renderNodes (.ofContext (typesContext plan.domains))
      [forEach "domain" (var "domains") domainNodes []] =
      .ok (String.join (plan.domains.map domainTypes)) :=
    renderNodes_loop (f := Domain.toData) rfl fun d _ last => renderNodes_domainNodes rfl rfl d
  have hrender : (index plan).content =
      renderNodes (.ofContext (typesContext plan.domains)) Template.Contracts.index := rfl
  rw [hrender, index_eq]
  exact renderNodes_ok_append hopening (renderNodes_ok_append hdomains (renderNodes_errorNodes rfl) rfl) rfl

lemma get_index {plan : Plan} (hcaps : (plan.domains.map Domain.capitalized).Nodup) :
    ∃ contracts, generate plan = .ok contracts ∧ contracts.get "src/index.ts" = .ok (types plan.domains) := by
  have hrendered := rendered_drafts plan
  have hpaths := nodup_drafts hcaps
  have hmem : index plan ∈ drafts plan := by simp [drafts, index]
  have hcontent : (index plan).artifact.content = types plan.domains :=
    Except.ok.inj ((Draft.content_of_rendered (hrendered _ hmem)).symm.trans (content_index plan))
  exact ⟨_, ArtifactSet.ofDrafts_eq_ok hrendered hpaths, hcontent ▸ ArtifactSet.get_ofDrafts hpaths hmem _⟩

end ContractsPackage

/--
The names are the capitalized forms of the domains in their order, each in all the forms, and none
comes twice.
-/
structure SpelledOnce (domains : List Domain) (forms : List (String × String))
    (names : List String) : Prop where
  names_eq : names = domains.flatMap fun d => forms.map d.spelled
  nodup : names.Nodup
  length_eq : names.length = forms.length * domains.length

variable {domains : List Domain} {forms : List (String × String)} {names : List String}

lemma spelledOnce (hcaps : (domains.map Domain.capitalized).Nodup)
    (hnames : names = domains.flatMap fun d => forms.map d.spelled)
    (hforms : forms.Nodup) (hapart : ∀ f ∈ forms, ∀ g ∈ forms, f = g ∨ Domain.Apart f g) :
    SpelledOnce domains forms names where
  names_eq := hnames
  nodup := hnames ▸ Domain.nodup_spelled hcaps hforms hapart
  length_eq := by simp [hnames, List.length_flatMap, Nat.mul_comm]

def useCaseForms : List (String × String) := [("List", "s"), ("Create", ""), ("Get", "")]

lemma useCaseModules_ofDomains (domains : List Domain) :
    (RouteTable.ofDomains domains).map Route.useCaseModule =
    domains.flatMap fun d => useCaseForms.map d.spelled := by
  rw [RouteTable.ofDomains, List.map_flatMap]
  refine List.flatMap_congr fun d _ => ?_
  rw [CorePackage.useCaseModules]
  simp [useCaseForms, Domain.spelled, Domain.pluralCapitalized_eq, String.append_assoc]

lemma names_interfaces (domains : List Domain) : (domains.flatMap Domain.interfaces).map Interface.name =
    domains.flatMap fun d => Domain.schemaForms.map d.spelled := by
  rw [List.map_flatMap]
  exact List.flatMap_congr fun d _ => d.spelled_schemaForms.symm

lemma keys_components (hcaps : (domains.map Domain.capitalized).Nodup) :
    (Schema.components domains).map Prod.fst =
    domains.flatMap fun d => Domain.schemaForms.map d.spelled := by
  have hkeys : (domains.flatMap fun d =>
      [(d.createRequestName, Schema.createRequest), (d.responseName, Schema.response)]).map Prod.fst =
      domains.flatMap fun d => Domain.schemaForms.map d.spelled := by
    rw [List.map_flatMap]
    exact List.flatMap_congr fun d _ => d.spelled_schemaForms.symm
  rw [Schema.components, Assoc.ofList_of_nodup (hkeys ▸ Domain.nodup_spelled hcaps (by decide) (by decide)),
    hkeys]

lemma keys_policies {routes : List Route} (hn : (RouteTable.operationIds routes).Nodup) :
    (Offline.policies routes).map Prod.fst = RouteTable.operationIds routes := by
  have hkeys : (routes.map fun r => (r.operationId, Offline.Policy.ofKind r.kind)).map Prod.fst =
      RouteTable.operationIds routes :=
    List.map_map
  rw [Offline.policies, Assoc.ofList_of_nodup (hkeys ▸ hn), hkeys]

namespace Plan

/--
Operations are distinct where the capitalized forms of the tokens are, and only there. Then each
family of names has all its forms of each domain, and no two of them are equal.
-/
theorem spelledOnce_names (config : Config) :
    let plan := ofConfig config
    ((RouteTable.operationIds plan.routes).Nodup ↔ (config.domains.map capitalize).Nodup) ∧
    ((config.domains.map capitalize).Nodup →
      SpelledOnce plan.domains RouteTable.operationForms (RouteTable.operationIds plan.routes) ∧
      SpelledOnce plan.domains useCaseForms (plan.routes.map Route.useCaseModule) ∧
      SpelledOnce plan.domains RouteTable.operationForms ((Offline.policies plan.routes).map Prod.fst) ∧
      SpelledOnce plan.domains Domain.schemaForms
        ((plan.domains.flatMap Domain.interfaces).map Interface.name) ∧
      SpelledOnce plan.domains Domain.schemaForms ((Schema.components plan.domains).map Prod.fst) ∧
      ∃ contracts, ContractsPackage.generate plan = .ok contracts ∧
        contracts.get "src/index.ts" = .ok (ContractsPackage.types plan.domains)) := by
  intro plan
  rw [← capitalized_ofConfig]
  refine ⟨RouteTable.nodup_operationIds_iff, fun hcaps => ?_⟩
  have hoperations : RouteTable.operationIds plan.routes = plan.domains.flatMap fun d =>
      RouteTable.operationForms.map d.spelled :=
    RouteTable.operationIds_ofDomains plan.domains
  have hpolicies := keys_policies (RouteTable.nodup_operationIds hcaps)
  exact ⟨spelledOnce hcaps hoperations (by decide) (by decide),
    spelledOnce hcaps (useCaseModules_ofDomains plan.domains) (by decide) (by decide),
    spelledOnce hcaps (hpolicies.trans hoperations) (by decide) (by decide),
    spelledOnce hcaps (names_interfaces plan.domains) (by decide) (by decide),
    spelledOnce hcaps (keys_components hcaps) (by decide) (by decide), ContractsPackage.get_index hcaps⟩

theorem spelledOnce_names_list :
    let plan := ofConfig { domains := ["list", "createResponse"] }
    (["list", "createResponse"].map capitalize).Nodup ∧
    SpelledOnce plan.domains RouteTable.operationForms
      ["listLists", "createList", "getList", "listCreateResponses", "createCreateResponse",
      "getCreateResponse"] ∧
    SpelledOnce plan.domains Domain.schemaForms
      ["CreateListRequest", "ListResponse", "CreateCreateResponseRequest", "CreateResponseResponse"] ∧
    ∃ contracts, ContractsPackage.generate plan = .ok contracts ∧
      contracts.get "src/index.ts" = .ok (ContractsPackage.types plan.domains) := by
  intro plan
  have hcaps : (["list", "createResponse"].map capitalize).Nodup := by decide
  have hids : RouteTable.operationIds plan.routes =
      ["listLists", "createList", "getList", "listCreateResponses", "createCreateResponse",
      "getCreateResponse"] := by decide
  have hnames : (plan.domains.flatMap Domain.interfaces).map Interface.name =
      ["CreateListRequest", "ListResponse",
      "CreateCreateResponseRequest", "CreateResponseResponse"] := by decide
  obtain ⟨hoperations, -, -, hinterfaces, -, hindex⟩ :=
    (spelledOnce_names { domains := ["list", "createResponse"] }).2 hcaps
  exact ⟨hcaps, hids ▸ hoperations, hnames ▸ hinterfaces, hindex⟩

example : ¬ (RouteTable.operationIds (ofConfig { domains := ["user", "User"] }).routes).Nodup := by decide

end Plan

end ApiScaffold
