import ApiScaffold.Package.Core
import ApiScaffold.Proofs.Api.RouteTable
import ApiScaffold.Proofs.Package.Content
import ApiScaffold.Proofs.Package.Paths

namespace ApiScaffold

open Template Chain

namespace CorePackage

open Plan

def domainsEnv (words : Bool) : Env := [("domains", .list (Domain.shape words))]

def routesEnv (words : Bool) : Env := [("routes", .list (Route.shape words .text (.list (nameShape words))))]

def modelEnv (words : Bool) : Env :=
  let field : Shape := .record [("name", .line), ("zod", .line), ("ts_type", .line), ("to_response", .line)]
  [("domain", Domain.shape words), ("fields", .list field), ("create_fields", .list field)]

def errorsEnv : Env := [("errors", .list (.record [("name", .line), ("code", .line), ("status", .number)]))]

def useCaseEnv (words : Bool) : Env := [
  ("domain", Domain.shape words), ("route", Route.shape words .text (.list (nameShape words))),
  ("default_limit", .number), ("max_limit", .number)]

section

variable (words : Bool) {d : Domain} (hd : words → Text.isWord d.token.toList)

lemma fits_domains {domains : List Domain} (h : ∀ d ∈ domains, words → Text.isWord d.token.toList) :
    Fits (.record (domainsEnv words)) (.map [("domains", domainsData domains)]) :=
  .field (fits_domainsData h) .empty

include hd

lemma fits_model : Fits (.record (modelEnv words)) (.map (modelContext d)) := by
  have hlines : ∀ f ∈ Field.entity ++ Field.creation,
      '\n' ∉ f.name.toList ∧ '\n' ∉ f.validator.toList ∧ '\n' ∉ f.tsType.toList ∧
      '\n' ∉ f.response.toList := by
    decide +kernel
  have hfield {f : Field} (hf : f ∈ Field.entity ++ Field.creation) :=
    Fits.field (n := "name") (Fits.line (hlines f hf).1) <| .field (n := "zod") (.line (hlines f hf).2.1) <|
      .field (n := "ts_type") (.line (hlines f hf).2.2.1) <| .field (n := "to_response")
        (.line (hlines f hf).2.2.2) .empty
  exact .field (Domain.fits_toData hd) <| .field
    (fits_list_map fun f hf => hfield (List.mem_append_left _ hf)) <|
    .field (fits_list_map fun f hf => hfield (List.mem_append_right _ hf)) .empty

lemma fits_useCase {r : Route} (hr : Fits (Route.shape words .text (.list (nameShape words))) r.toData) :
    Fits (.record (useCaseEnv words)) (.map (useCaseContext d r)) :=
  .field (Domain.fits_toData hd) <| .field hr <| .field (.number _) <| .field (.number _) .empty

end

lemma fits_errors : Fits (.record errorsEnv) (.map [("errors", domainErrors)]) := by
  have herror {name code : String} (hname : '\n' ∉ name.toList) (hcode : '\n' ∉ code.toList) (status : Nat) :=
    Fits.field (n := "name") (Fits.line hname) <| .field (n := "code") (.line hcode) <|
      .field (n := "status") (.number status) .empty
  refine .field (.list ?_) .empty
  simp only [List.forall_mem_cons]
  exact ⟨herror (by decide) (by decide) _, herror (by decide) (by decide) _, herror (by decide) (by decide) _,
    herror (by decide) (by decide) _, herror (by decide) (by decide) _, List.forall_mem_nil _⟩

lemma rendered_useCase (d : Domain) (r : Route) : (useCase d r).Rendered := by
  unfold useCase
  cases r.kind with
  | list | create | get =>
    exact Draft.rendered_ofTemplate (fits_useCase false nofun (fits_route r)) _ (by cbv) _

def leading (plan : Plan) : List Draft :=
  [.text "package.json" (Json.dump manifest),
    .text "tsconfig.json" (Json.dump Manifest.compilerSettings),
    .ofTemplate "src/index.ts" Template.Core.index [("domains", domainsData plan.domains)]]

def following (plan : Plan) : List Draft :=
  let domains := [("domains", domainsData plan.domains)]
  [.ofTemplate "src/domain/errors/DomainError.ts" Template.Core.domainError [("errors", domainErrors)],
    .ofTemplate "src/ports/index.ts" Template.Core.portsIndex domains,
    .ofTemplate "src/ports/pagination.ts" Template.Core.pagination [],
    .ofTemplate "src/ports/IServices.ts" Template.Core.services []]
  ++ plan.domains.map repository
  ++ .ofTemplate "src/use-cases/index.ts" Template.Core.useCasesIndex domains ::
    plan.domains.flatMap (useCases plan)

lemma drafts_eq (plan : Plan) : drafts plan = leading plan ++ plan.domains.map model ++ following plan := by
  simp [drafts, leading, following]

lemma rendered_drafts (plan : Plan) : ∀ draft ∈ drafts plan, draft.Rendered := by
  have hdomains := Draft.rendered_ofTemplate (fits_domains false fun d (_ : d ∈ plan.domains) => nofun)
  have hnothing := Draft.rendered_ofTemplate .empty
  have huse (d : Domain) : ∀ draft ∈ useCases plan d, draft.Rendered := by
    rintro draft (_ | ⟨_, hdraft⟩)
    · exact Draft.rendered_ofTemplate (.field (fits_list_map fun r _ => fits_route r) .empty) _ (by cbv) _
    · obtain ⟨r, -, rfl⟩ := List.mem_map.mp hdraft
      exact rendered_useCase d r
  simp only [drafts, List.forall_mem_append, List.forall_mem_cons, List.forall_mem_map,
    List.forall_mem_flatMap]
  refine ⟨⟨⟨⟨⟨⟨Draft.rendered_text .., Draft.rendered_text .., hdomains _ (by cbv) _, List.forall_mem_nil _⟩,
    fun d _ => ?_⟩,
    ?_, hdomains _ (by cbv) _, hnothing _ (by cbv) _, hnothing _ (by cbv) _, List.forall_mem_nil _⟩,
      fun d _ => ?_⟩, hdomains _ (by cbv) _, List.forall_mem_nil _⟩, fun d _ => huse d⟩
  · exact Draft.rendered_ofTemplate (fits_model false nofun) _ (by cbv) _
  · exact Draft.rendered_ofTemplate fits_errors _ (by cbv) _
  · exact Draft.rendered_ofTemplate (.field (fits_domain d) .empty) _ (by cbv) _

variable {plan : Plan}

def modelFamilies (caps : List String) : List PathFamily :=
  [("package.json", [""]), ("tsconfig.json", [""]), ("src/index.ts", [""]),
    ("src/domain/models/", caps.map (· ++ ".ts"))]

lemma paths_models (domains : List Domain) : (leading plan ++ domains.map model).map Draft.path =
    (modelFamilies (domains.map Domain.capitalized)).flatMap PathFamily.paths := by
  simp [modelFamilies, leading, PathFamily.paths, model, Draft.ofTemplate, Draft.text, String.append_assoc]

lemma nodup_models {caps : List String} (hcaps : caps.Nodup) :
    ((modelFamilies caps).flatMap PathFamily.paths).Nodup := by
  refine nodup_paths (by simp only [modelFamilies, List.map_cons, List.map_nil]; decide) ?_
  simp only [modelFamilies, List.forall_mem_cons, List.nodup_singleton, true_and]
  exact ⟨nodup_append_left ".ts" hcaps, List.forall_mem_nil _⟩

def useCaseFiles (d : Domain) : List String :=
  ["index.ts", "List" ++ d.pluralCapitalized ++ ".ts", "Create" ++ d.capitalized ++ ".ts",
    "Get" ++ d.capitalized ++ ".ts"]

def useCaseRests (d : Domain) : List String := (useCaseFiles d).map (d.token ++ "/" ++ ·)

lemma useCaseModules (d : Domain) : d.routes.map Route.useCaseModule =
    ["List" ++ d.pluralCapitalized, "Create" ++ d.capitalized, "Get" ++ d.capitalized] := by
  have hlist : Text.upper 'l' = ['L'] := by decide
  have hcreate : Text.upper 'c' = ['C'] := by decide
  have hget : Text.upper 'g' = ['G'] := by decide
  simp [Domain.routes, Route.useCaseModule, Domain.listRoute, Domain.createRoute, Domain.getRoute,
    Text.capitalize, ← String.toList_inj, hlist, hcreate, hget]

lemma paths_useCases {d : Domain} (h : plan.routesFor d = d.routes) :
    (useCases plan d).map Draft.path = (useCaseRests d).map ("src/use-cases/" ++ ·) := by
  have hmodules : ((plan.routesFor d).map (useCase d)).map Draft.path =
      (d.routes.map Route.useCaseModule).map (useCaseDirectory d ++ · ++ ".ts") := by
    simp [h, useCase, Draft.ofTemplate, Function.comp_def]
  rw [useCases, List.map_cons, hmodules, useCaseModules]
  simp [useCaseRests, useCaseFiles, useCaseDirectory, Draft.ofTemplate, String.append_assoc]

lemma nodup_useCaseFiles (d : Domain) : (useCaseFiles d).Nodup := by
  simp [useCaseFiles, ← String.toList_inj]

lemma nodup_useCaseRests {domains : List Domain} (hn : domains.Nodup)
    (hslash : ∀ d ∈ domains, '/' ∉ d.token.toList) :
    ("index.ts" :: domains.flatMap useCaseRests).Nodup := by
  refine List.nodup_cons.mpr ⟨?_, ?_⟩
  · intro hmem
    obtain ⟨d, -, hrest⟩ := List.mem_flatMap.mp hmem
    obtain ⟨file, -, heq⟩ := List.mem_map.mp hrest
    have hin : '/' ∈ (d.token ++ "/" ++ file).toList := by simp
    rw [heq] at hin
    exact absurd hin (by decide)
  · refine List.nodup_flatMap.mpr ⟨fun d _ => nodup_append_right _ (nodup_useCaseFiles d), ?_⟩
    refine hn.imp_of_mem fun {d e} hd he hne => ?_
    rintro rest hd' he'
    obtain ⟨file, -, rfl⟩ := List.mem_map.mp hd'
    obtain ⟨other, -, heq⟩ := List.mem_map.mp he'
    have htoken : e.token.toList = d.token.toList := eq_of_append_cons (u := other.toList) (v := file.toList)
      (hslash e he) (hslash d hd) (by simpa [← String.toList_inj] using heq)
    obtain ⟨s⟩ := d
    obtain ⟨t⟩ := e
    exact hne (congrArg Domain.mk (String.toList_inj.mp htoken.symm))

def followingFamilies (domains : List Domain) : List PathFamily :=
  [("src/domain/errors/DomainError.ts", [""]), ("src/ports/index.ts", [""]),
    ("src/ports/pagination.ts", [""]),
    ("src/ports/I", "Services.ts" :: (domains.map Domain.capitalized).map (· ++ "Repository.ts")),
    ("src/use-cases/", "index.ts" :: domains.flatMap useCaseRests)]

lemma paths_drafts (hr : plan.routes = RouteTable.ofDomains plan.domains) (hn : plan.domains.Nodup) :
    (drafts plan).map Draft.path = (modelFamilies (plan.domains.map Domain.capitalized) ++
      followingFamilies plan.domains).flatMap PathFamily.paths := by
  have huse : ∀ d ∈ plan.domains, (useCases plan d).map Draft.path =
      (useCaseRests d).map ("src/use-cases/" ++ ·) :=
    fun d hd => paths_useCases (by rw [Plan.routesFor, hr, RouteTable.routesFor_ofDomains hn hd])
  have hrepository (d : Domain) : (repository d).path =
      "src/ports/I" ++ (d.capitalized ++ "Repository.ts") := by
    simp [repository, Draft.ofTemplate, Domain.repositoryName_eq, ← String.toList_inj]
  rw [drafts_eq, List.map_append, paths_models, List.flatMap_append, following]
  congr 1
  simp only [followingFamilies, List.flatMap_cons, PathFamily.paths, List.map_append, List.map_cons,
    List.map_flatMap, List.map_map, List.flatMap_congr huse]
  simp [Draft.ofTemplate, hrepository]

lemma nodup_drafts (hr : plan.routes = RouteTable.ofDomains plan.domains)
    (hcaps : (plan.domains.map Domain.capitalized).Nodup)
    (hslash : ∀ d ∈ plan.domains, '/' ∉ d.token.toList) :
    ((drafts plan).map Draft.path).Nodup := by
  have hn : plan.domains.Nodup := .of_map _ hcaps
  rw [paths_drafts hr hn]
  refine nodup_paths ?_ ?_
  · simp only [modelFamilies, followingFamilies, List.map_append, List.map_cons, List.map_nil]
    decide
  · simp only [modelFamilies, followingFamilies, List.forall_mem_append, List.forall_mem_cons,
      List.nodup_singleton, true_and]
    refine ⟨⟨nodup_append_left ".ts" hcaps, List.forall_mem_nil _⟩, ?_, nodup_useCaseRests hn hslash,
      List.forall_mem_nil _⟩
    refine List.nodup_cons.mpr ⟨?_, nodup_append_left _ hcaps⟩
    intro hmem
    obtain ⟨cap, -, heq⟩ := List.mem_map.mp hmem
    have hlast := congrArg (fun s : String => s.toList.reverse.take 4) heq
    simp at hlast

lemma generate_eq_ok (hr : plan.routes = RouteTable.ofDomains plan.domains)
    (hcaps : (plan.domains.map Domain.capitalized).Nodup)
    (hslash : ∀ d ∈ plan.domains, '/' ∉ d.token.toList) :
    generate plan = .ok ⟨PackageName.core, (drafts plan).map Draft.artifact⟩ :=
  ArtifactSet.ofDrafts_eq_ok (rendered_drafts plan) (nodup_drafts hr hcaps hslash)

lemma length_drafts (hr : plan.routes = RouteTable.ofDomains plan.domains) (hn : plan.domains.Nodup) :
    (drafts plan).length = 8 + 6 * plan.domains.length := by
  have hlength := congrArg List.length (paths_drafts hr hn)
  rw [List.length_map] at hlength
  rw [hlength]
  simp [modelFamilies, followingFamilies, PathFamily.paths, useCaseRests, useCaseFiles, Function.comp_def]
  omega

lemma builds_generate (hr : plan.routes = RouteTable.ofDomains plan.domains)
    (hcaps : (plan.domains.map Domain.capitalized).Nodup)
    (hslash : ∀ d ∈ plan.domains, '/' ∉ d.token.toList) :
    ArtifactSet.Builds (generate plan) (PackageName.core, 8 + 6 * plan.domains.length) := by
  rw [← length_drafts hr (.of_map _ hcaps)]
  exact ArtifactSet.builds_ofDrafts (rendered_drafts plan) (nodup_drafts hr hcaps hslash)

lemma generate_of_repeated {pre post : List Domain} {d : Domain} (hd : plan.domains = pre ++ d :: post)
    (hcaps : (pre.map Domain.capitalized).Nodup) (hrepeated : d.capitalized ∈ pre.map Domain.capitalized) :
    generate plan =
      .error (.duplicate ⟨PackageName.core, "src/domain/models/" ++ d.capitalized ++ ".ts"⟩) := by
  have hrendered : ∀ x ∈ leading plan ++ (pre ++ d :: post).map model ++ following plan, x.Rendered := by
    rw [← hd, ← drafts_eq]
    exact rendered_drafts plan
  obtain ⟨e, he, hcap⟩ := List.mem_map.mp hrepeated
  rw [generate, drafts_eq, hd, ArtifactSet.ofDrafts_of_repeated hrendered]
  · rfl
  · rw [paths_models]
    exact nodup_models hcaps
  · exact ⟨e, he, by simp [model, Draft.ofTemplate, hcap]⟩

end CorePackage

end ApiScaffold
