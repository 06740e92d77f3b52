import ApiScaffold.Package.Contracts
import ApiScaffold.Proofs.Package.Content
import ApiScaffold.Proofs.Package.Paths

namespace ApiScaffold

open Template Chain

namespace ContractsPackage

open Plan

def typesEnv (words : Bool) : Env :=
  let field : Shape := .record [("name", .line), ("ts_type", .line)]
  [("domains", .list (Domain.shape words)), ("fields", .list field), ("create_fields", .list field),
    ("error_codes", .list .line)]

def routesEnv (words : Bool) : Env := [("routes", .list (Route.shape words .text (.list (nameShape words))))]

lemma fits_types (words : Bool) {domains : List Domain}
    (h : ∀ d ∈ domains, words → Text.isWord d.token.toList) :
    Fits (.record (typesEnv words)) (.map (typesContext domains)) := by
  have hlines : ∀ f ∈ Field.entity ++ Field.creation, '\n' ∉ f.name.toList ∧ '\n' ∉ f.tsType.toList := by
    decide +kernel
  have hcodes : ∀ code ∈ errorCodes, '\n' ∉ code.toList := by decide +kernel
  have hfield {f : Field} (hf : f ∈ Field.entity ++ Field.creation) :=
    Fits.field (n := "name") (Fits.line (hlines f hf).1) <| .field (n := "ts_type")
      (.line (hlines f hf).2) .empty
  exact .field (fits_domainsData h) <| .field
    (fits_list_map fun f hf => hfield (List.mem_append_left _ hf)) <|
    .field (fits_list_map fun f hf => hfield (List.mem_append_right _ hf)) <|
    .field (fits_strings fun code hcode => .line (hcodes code hcode)) .empty

lemma fits_routes (routes : List Route) : Fits (.record (routesEnv false))
    (.map [("routes", routesData routes)]) :=
  .field (fits_list_map fun r _ => fits_route r) .empty

lemma rendered_drafts (plan : Plan) : ∀ draft ∈ drafts plan, draft.Rendered := by
  have hgraphql : ∀ draft ∈ graphql plan, draft.Rendered := by
    intro draft hdraft
    unfold graphql at hdraft
    split at hdraft
    · rw [List.mem_singleton.mp hdraft]
      exact Draft.rendered_text ..
    · cases hdraft
  simp only [drafts, List.forall_mem_append, List.forall_mem_cons, List.forall_mem_map]
  refine ⟨⟨⟨⟨Draft.rendered_text .., Draft.rendered_text .., Draft.rendered_text .., List.forall_mem_nil _⟩,
    fun d _ => ?_⟩, ?_, ?_, List.forall_mem_nil _⟩, hgraphql⟩
  · exact Draft.rendered_text ..
  · exact Draft.rendered_ofTemplate (fits_types false fun d (_ : d ∈ plan.domains) => nofun) _ (by cbv) _
  · exact Draft.rendered_ofTemplate (fits_routes plan.routes) _ (by cbv) _

def leading (plan : Plan) : List Draft :=
  [.text "package.json" (Json.dump (manifest plan.config.format)),
    .text "tsconfig.json" (Json.dump Manifest.compilerSettings),
    .text "openapi/openapi.yaml" (Yaml.dump (document plan))]

def following (plan : Plan) : List Draft :=
  [.ofTemplate "src/index.ts" Template.Contracts.index (typesContext plan.domains),
    .ofTemplate "src/routes.ts" Template.Contracts.routes [("routes", routesData plan.routes)]]
  ++ graphql plan

lemma drafts_eq (plan : Plan) : drafts plan = leading plan ++ plan.domains.map schema ++ following plan := by
  simp [drafts, leading, following]

variable {plan : Plan}

def schemaFamilies (caps : List String) : List PathFamily :=
  [("package.json", [""]), ("tsconfig.json", [""]), ("openapi/openapi.yaml", [""]),
    ("schemas/", caps.map (· ++ ".schema.json"))]

lemma paths_schemas (domains : List Domain) : (leading plan ++ domains.map schema).map Draft.path =
    (schemaFamilies (domains.map Domain.capitalized)).flatMap PathFamily.paths := by
  simp [schemaFamilies, leading, PathFamily.paths, schema, Draft.text, String.append_assoc]

lemma nodup_schemas {caps : List String} (hcaps : caps.Nodup) :
    ((schemaFamilies caps).flatMap PathFamily.paths).Nodup := by
  refine nodup_paths (by simp only [schemaFamilies, List.map_cons, List.map_nil]; decide) ?_
  simp only [schemaFamilies, List.forall_mem_cons, List.nodup_singleton, true_and]
  exact ⟨nodup_append_left ".schema.json" hcaps, List.forall_mem_nil _⟩

def followingFamilies (format : ContractFormat) : List PathFamily :=
  [("src/index.ts", [""]), ("src/routes.ts", [""]),
    ("graphql/schema.graphql", if format = .graphql then [""] else [])]

lemma paths_drafts (plan : Plan) :
    (drafts plan).map Draft.path = (schemaFamilies (plan.domains.map Domain.capitalized) ++
    followingFamilies plan.config.format).flatMap PathFamily.paths := by
  rw [drafts_eq, List.map_append, paths_schemas, List.flatMap_append, following]
  congr 1
  by_cases hformat : plan.config.format = .graphql <;>
    simp [followingFamilies, graphql, hformat, PathFamily.paths, Draft.ofTemplate, Draft.text]

lemma nodup_drafts (hcaps : (plan.domains.map Domain.capitalized).Nodup) :
    ((drafts plan).map Draft.path).Nodup := by
  rw [paths_drafts]
  refine nodup_paths ?_ ?_
  · simp only [schemaFamilies, followingFamilies, List.map_append, List.map_cons, List.map_nil]
    decide
  · simp only [schemaFamilies, followingFamilies, List.forall_mem_append, List.forall_mem_cons,
      List.nodup_singleton, true_and]
    refine ⟨⟨nodup_append_left _ hcaps, List.forall_mem_nil _⟩, ?_, List.forall_mem_nil _⟩
    split
    · exact List.nodup_singleton _
    · exact List.nodup_nil

lemma generate_eq_ok (hcaps : (plan.domains.map Domain.capitalized).Nodup) :
    generate plan = .ok ⟨PackageName.contracts, (drafts plan).map Draft.artifact⟩ :=
  ArtifactSet.ofDrafts_eq_ok (rendered_drafts plan) (nodup_drafts hcaps)

lemma nodup_capitalized (h : ((drafts plan).map Draft.path).Nodup) :
    (plan.domains.map Domain.capitalized).Nodup := by
  rw [paths_drafts, List.nodup_flatMap] at h
  have hschemas := h.1 ("schemas/", (plan.domains.map Domain.capitalized).map (· ++ ".schema.json"))
    (by simp [schemaFamilies])
  exact .of_map _ (.of_map _ hschemas)

lemma length_drafts (plan : Plan) :
    (drafts plan).length = 5 + plan.domains.length + if plan.config.format = .graphql then 1 else 0 := by
  by_cases hformat : plan.config.format = .graphql
  · simp [drafts, graphql, hformat]
    omega
  · simp [drafts, graphql, hformat]
    omega

lemma builds_generate (hcaps : (plan.domains.map Domain.capitalized).Nodup) :
    ArtifactSet.Builds (generate plan)
      (PackageName.contracts, 5 + plan.domains.length + if plan.config.format = .graphql then 1 else 0) := by
  rw [← length_drafts]
  exact ArtifactSet.builds_ofDrafts (rendered_drafts plan) (nodup_drafts hcaps)

lemma generate_of_repeated {pre post : List Domain} {d : Domain} (hd : plan.domains = pre ++ d :: post)
    (hcaps : (pre.map Domain.capitalized).Nodup) (hrepeated : d.capitalized ∈ pre.map Domain.capitalized) :
    generate plan =
      .error (.duplicate ⟨PackageName.contracts, "schemas/" ++ d.capitalized ++ ".schema.json"⟩) := by
  have hrendered : ∀ x ∈ leading plan ++ (pre ++ d :: post).map schema ++ following plan, x.Rendered := by
    rw [← hd, ← drafts_eq]
    exact rendered_drafts plan
  obtain ⟨e, he, hcap⟩ := List.mem_map.mp hrepeated
  rw [generate, drafts_eq, hd, ArtifactSet.ofDrafts_of_repeated hrendered]
  · rfl
  · rw [paths_schemas]
    exact nodup_schemas hcaps
  · exact ⟨e, he, by simp [schema, Draft.text, hcap]⟩

end ContractsPackage

end ApiScaffold
