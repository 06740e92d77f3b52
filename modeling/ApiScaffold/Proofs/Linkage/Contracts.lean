import ApiScaffold.Proofs.Linkage.Specifier
import ApiScaffold.Proofs.Package.Contracts
import ApiScaffold.Proofs.Api.Source

namespace ApiScaffold

open Template Text Linkage

namespace ContractsPackage

open Node

variable {plan : Plan}

def index (plan : Plan) : Draft :=
  .ofTemplate "src/index.ts" Template.Contracts.index (typesContext plan.domains)

def routeTable (plan : Plan) : Draft :=
  .ofTemplate "src/routes.ts" Template.Contracts.routes [("routes", routesData plan.routes)]

def indexStatements : Template := [text "export * from './routes.js';\n"]

lemma slicesTo_indexStatements :
    SlicesTo Linkage.starts (typesEnv true) Template.Contracts.index indexStatements := by
  unfold indexStatements
  apply SlicesTo.intro
  · cbv
    repeat' constructor
  · cbv

lemma slicesTo_routes_silent : SlicesTo Linkage.starts (routesEnv true) Template.Contracts.routes [] := by
  apply SlicesTo.intro
  · cbv
    repeat' constructor
  · cbv

lemma isSource_schema (d : Domain) : isSource (schema d).path = false := by
  simp [isSource, schema, Draft.text]

lemma linked_drafts (hr : plan.routes = RouteTable.ofDomains plan.domains)
    (h : ∀ d ∈ plan.domains, isWord d.token.toList) :
    ∀ draft ∈ drafts plan, draft.Linked ((drafts plan).map Draft.path) := by
  have hgraphql : ∀ draft ∈ graphql plan, draft.Linked ((drafts plan).map Draft.path) := by
    intro draft hdraft
    unfold graphql at hdraft
    split at hdraft
    · rw [List.mem_singleton.mp hdraft]
      exact Draft.linked_of_not (by decide : isSource "graphql/schema.graphql" = false)
    · cases hdraft
  have hrendered := rendered_drafts plan
  have hroutes : "src/routes.ts" ∈ (drafts plan).map Draft.path := by
    simp [drafts, Draft.ofTemplate]
  have hindex : (index plan).Linked ((drafts plan).map Draft.path) := by
    refine Draft.linked_ofTemplate (hrendered _ (by simp [drafts]))
      (fits_types true fun d hd _ => h d hd) (by decide)
      slicesTo_indexStatements (.text rfl rfl rfl .nil) ?_
    simp only [List.forall_mem_singleton]
    exact leads_of_destination (by decide) hroutes
  have htable : (routeTable plan).Linked ((drafts plan).map Draft.path) := by
    exact Draft.linked_ofTemplate (hrendered _ (by simp [drafts])) (fits_routes_words hr h) (by decide)
      slicesTo_routes_silent .nil (List.forall_mem_nil _)
  intro draft hdraft
  rw [drafts, List.mem_append, List.mem_append, List.mem_append, List.mem_map] at hdraft
  rcases hdraft with ((hfixed | ⟨d, -, rfl⟩) | hsources) | hdraft
  · revert draft
    simp only [List.forall_mem_cons]
    exact ⟨Draft.linked_of_not (by decide : isSource "package.json" = false),
      Draft.linked_of_not (by decide : isSource "tsconfig.json" = false),
      Draft.linked_of_not (by decide : isSource "openapi/openapi.yaml" = false), List.forall_mem_nil _⟩
  · exact Draft.linked_of_not (isSource_schema d)
  · revert draft
    simp only [List.forall_mem_cons]
    exact ⟨hindex, htable, List.forall_mem_nil _⟩
  · exact hgraphql draft hdraft

end ContractsPackage

end ApiScaffold
