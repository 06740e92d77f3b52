import ApiScaffold.Proofs.Api.Document
import ApiScaffold.Proofs.Api.Router

namespace ApiScaffold

open Text

namespace Surface

lemma ofRouteTable_contracts {plan : Plan} (hr : plan.routes = RouteTable.ofDomains plan.domains)
    (h : ∀ d ∈ plan.domains, isWord d.token.toList) (hcaps : (plan.domains.map Domain.capitalized).Nodup) :
    ∃ s source, ContractsPackage.generate plan = .ok s ∧ s.get "src/routes.ts" = .ok source ∧
      ofRouteTable source = some (plan.routes.map Route.endpoint) := by
  have hrendered := ContractsPackage.rendered_drafts plan
  have hpaths := ContractsPackage.nodup_drafts hcaps
  have hmem : Draft.ofTemplate "src/routes.ts" Template.Contracts.routes
      [("routes", routesData plan.routes)] ∈
      ContractsPackage.drafts plan := by
    simp [ContractsPackage.drafts]
  refine ⟨_, _, ArtifactSet.ofDrafts_eq_ok hrendered hpaths, ?_,
    ContractsPackage.ofRouteTable_eq hr h (Draft.content_of_rendered (hrendered _ hmem))⟩
  have hfind := Draft.find?_artifact hpaths hmem
  simp only [Draft.ofTemplate] at hfind
  rw [ArtifactSet.get]
  simp only [hfind]
  rfl

/-- Every description of the interface is the route table, for identifiers as tokens whose capitalized forms
differ and for any adapter. -/
theorem surfaces_eq_routeTable (config : Config) (adapterId : String) (hid : isIdentifier adapterId)
    (htokens : ∀ token ∈ config.domains, isIdentifier token) (hcaps : (config.domains.map capitalize).Nodup) :
    let plan := Plan.ofConfig config
    let table := (RouteTable.ofDomains (config.domains.map Domain.mk)).map Route.endpoint
    (∃ contracts source, ContractsPackage.generate plan = .ok contracts ∧
      contracts.get "src/routes.ts" = .ok source ∧ ofRouteTable source = some table) ∧
    ofDocument (ContractsPackage.document plan) = some table ∧
    ∃ adapter, AdapterPackage.generate plan adapterId = .ok adapter ∧ ofAdapter adapter = some table := by
  intro plan table
  have hr : plan.routes = RouteTable.ofDomains plan.domains := rfl
  have hwords : ∀ d ∈ plan.domains, isWord d.token.toList := by
    intro d hd
    obtain ⟨token, htoken, rfl⟩ := List.mem_map.mp hd
    exact isWord_of_isIdentifier (htokens token htoken)
  have hcapitalized : (plan.domains.map Domain.capitalized).Nodup := by
    have hmap : plan.domains.map Domain.capitalized = config.domains.map capitalize := List.map_map
    rwa [hmap]
  exact ⟨ofRouteTable_contracts hr hwords hcapitalized,
    OpenApi.ofDocument_eq (.of_map _ hcapitalized) _,
    AdapterPackage.ofAdapter_eq hr (isWord_of_isIdentifier hid) hwords hcapitalized⟩

theorem surfaces_eq_routeTable_user_item :
    let plan := Plan.ofConfig { domains := ["user", "_item2"] }
    let table : List Endpoint := [⟨.get, "/users", "listUsers"⟩, ⟨.post, "/users", "createUser"⟩,
      ⟨.get, "/users/\x7buserId\x7d", "getUser"⟩, ⟨.get, "/_item2s", "list_item2s"⟩,
      ⟨.post, "/_item2s", "create_item2"⟩, ⟨.get, "/_item2s/\x7b_item2Id\x7d", "get_item2"⟩]
    (∃ contracts source, ContractsPackage.generate plan = .ok contracts ∧
      contracts.get "src/routes.ts" = .ok source ∧ ofRouteTable source = some table) ∧
    ofDocument (ContractsPackage.document plan) = some table ∧
    ∃ adapter, AdapterPackage.generate plan "partner" = .ok adapter ∧ ofAdapter adapter = some table := by
  have htable : (RouteTable.ofDomains (["user", "_item2"].map Domain.mk)).map Route.endpoint = [
      ⟨.get, "/users", "listUsers"⟩, ⟨.post, "/users", "createUser"⟩,
      ⟨.get, "/users/\x7buserId\x7d", "getUser"⟩,
      ⟨.get, "/_item2s", "list_item2s"⟩, ⟨.post, "/_item2s", "create_item2"⟩,
      ⟨.get, "/_item2s/\x7b_item2Id\x7d", "get_item2"⟩] := by decide
  have h := surfaces_eq_routeTable { domains := ["user", "_item2"] } "partner" (by decide)
    (by decide) (by decide)
  rwa [htable] at h

end Surface

end ApiScaffold
