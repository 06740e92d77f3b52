import ApiScaffold.Proofs.Linkage.Adapter
import ApiScaffold.Proofs.Linkage.Contracts
import ApiScaffold.Proofs.Linkage.Core

/-!
The packages are closed under their own links: in each of them a relative specifier leads to one of its
files, and a file of an extension is there for being named.
-/

namespace ApiScaffold

open Text Linkage

namespace ArtifactSet

def Names (s : ArtifactSet) (path : String) : Prop :=
  ∃ a ∈ s.artifacts, isSource a.path ∧ ∃ specifier ∈ specifiers a.content, isRelative specifier ∧
    destination a.path specifier = some path

variable {s : ArtifactSet}

lemma Linked.mem_paths {path : String} (h : s.Linked) (hnames : s.Names path) : path ∈ s.paths := by
  obtain ⟨a, ha, hsource, specifier, hspecifier, hrelative, htarget⟩ := hnames
  obtain ⟨path', hpath, htarget'⟩ := h a ha hsource specifier hspecifier hrelative
  rw [Option.some.inj (htarget.symm.trans htarget')]
  exact hpath

end ArtifactSet

namespace AdapterPackage

variable {plan : Plan} {adapterId : String} {profile : Profile}

lemma wrapped_resolve (adapterId : String) :
    (Profile.resolve adapterId).envelope = .offlineWrapped → (Profile.resolve adapterId).offline := by
  by_cases hmobile : adapterId = "mobile"
  · rw [hmobile]
    decide
  · rw [Profile.resolve_of_ne hmobile]
    decide

lemma offline_of_mem_paths (h : "src/extensions/offline.ts" ∈ paths plan adapterId profile) :
    profile.offline := by
  by_contra hoffline
  rw [paths, drafts_eq, List.map_append, paths_controllers] at h
  simp [controllerFamilies, PathFamily.paths, hoffline, index, Draft.ofTemplate, ← String.toList_inj] at h

lemma specifiers_index (hr : plan.routes = RouteTable.ofDomains plan.domains) (hid : isWord adapterId.toList)
    (h : ∀ d ∈ plan.domains, isWord d.token.toList) :
    specifiers (index plan adapterId profile).artifact.content = indexSpecifiers plan.domains profile := by
  have hrendered :=
    rendered_drafts hr adapterId profile (fun d hd => Domain.pathParams_getRoute_ne_nil (h d hd))
    (index plan adapterId profile) (by simp [drafts, index])
  exact Draft.filterMap_ofTemplate hrendered
    (fits_context true true adapterId (fun _ => hid) (fun d hd _ => h d hd) hr profile)
    (by decide) (by decide) slicesTo_index (reads_indexStatements h)

lemma names_offline (hr : plan.routes = RouteTable.ofDomains plan.domains) (hid : isWord adapterId.toList)
    (h : ∀ d ∈ plan.domains, isWord d.token.toList) (hoffline : profile.offline) (package : String) :
    ArtifactSet.Names ⟨package, (drafts plan adapterId profile).map Draft.artifact⟩
      "src/extensions/offline.ts" := by
  have hindex : (index plan adapterId profile).artifact ∈
      (drafts plan adapterId profile).map Draft.artifact :=
    List.mem_map_of_mem (by simp [drafts, index])
  have he : Extension.offline ∈ profile.extensions := by simpa [Profile.offline] using hoffline
  have hexport : "./extensions" ++ "/" ++ Extension.offline.name ++ ".js" ∈
      profile.extensions.flatMap fun e => ["./extensions" ++ "/" ++ e.name ++ ".js"] :=
    List.mem_flatMap.mpr ⟨.offline, he, List.mem_singleton_self _⟩
  have hspecifier : "./extensions" ++ "/" ++ Extension.offline.name ++ ".js" ∈
      indexSpecifiers plan.domains profile := by
    simp only [indexSpecifiers, List.mem_cons, List.mem_append, hexport, true_or, or_true]
  refine ⟨_, hindex, (by decide : isSource "src/index.ts" = true),
    "./extensions" ++ "/" ++ Extension.offline.name ++ ".js", ?_, by decide,
    (by decide : destination "src/index.ts" _ = _)⟩
  rwa [specifiers_index hr hid h]

end AdapterPackage

namespace Linkage

/-- For identifiers as tokens whose capitalized forms differ and as the id of the adapter, no package names a
file that it does not have. -/
theorem packages_linked (config : Config) (adapterId : String) (hid : isIdentifier adapterId)
    (htokens : ∀ token ∈ config.domains, isIdentifier token) (hcaps : (config.domains.map capitalize).Nodup) :
    ∃ core contracts adapter, CorePackage.generate (Plan.ofConfig config) = .ok core ∧
      ContractsPackage.generate (Plan.ofConfig config) = .ok contracts ∧
      AdapterPackage.generate (Plan.ofConfig config) adapterId = .ok adapter ∧
      core.Linked ∧ contracts.Linked ∧ adapter.Linked ∧
      ("src/extensions/offline.ts" ∈ adapter.paths ↔ adapter.Names "src/extensions/offline.ts") := by
  have hr : (Plan.ofConfig config).routes = RouteTable.ofDomains (Plan.ofConfig config).domains := rfl
  have hwords := Plan.forall_domains_ofConfig fun token htoken =>
    isWord_of_isIdentifier (htokens token htoken)
  have hnames := Plan.forall_domains_ofConfig fun token htoken =>
    Path.isName_of_isIdentifier (htokens token htoken)
  rw [← Plan.capitalized_ofConfig] at hcaps
  have hcore := CorePackage.generate_eq_ok hr hcaps fun d hd => (hnames d hd).2.2.2
  have hcontracts := ContractsPackage.generate_eq_ok hcaps
  have hadapter :=
    AdapterPackage.generate_eq_ok hr adapterId
      (fun d hd => Domain.pathParams_getRoute_ne_nil (hwords d hd)) hcaps
  have hlinked :=
    ArtifactSet.linked_ofDrafts (AdapterPackage.linked_drafts hr (isWord_of_isIdentifier hid) hwords
    (AdapterPackage.wrapped_resolve adapterId)) (PackageName.adapter adapterId)
  refine ⟨_, _, _, hcore, hcontracts, hadapter,
    ArtifactSet.linked_ofDrafts (CorePackage.linked_drafts hr hwords hnames) _,
    ArtifactSet.linked_ofDrafts (ContractsPackage.linked_drafts hr hwords) _, hlinked, fun h => ?_,
    hlinked.mem_paths⟩
  rw [ArtifactSet.paths_ofDrafts] at h
  exact AdapterPackage.names_offline hr (isWord_of_isIdentifier hid) hwords
    (AdapterPackage.offline_of_mem_paths h) _

theorem packages_linked_mobile : isIdentifier "mobile" ∧ (∀ token ∈ ["user", "_item2"], isIdentifier token) ∧
    ∃ core contracts adapter, CorePackage.generate (Plan.ofConfig { domains := ["user", "_item2"] }) =
      .ok core ∧
      ContractsPackage.generate (Plan.ofConfig { domains := ["user", "_item2"] }) = .ok contracts ∧
      AdapterPackage.generate (Plan.ofConfig { domains := ["user", "_item2"] }) "mobile" = .ok adapter ∧
      core.Linked ∧ contracts.Linked ∧ adapter.Linked ∧
      ("src/extensions/offline.ts" ∈ adapter.paths ↔ adapter.Names "src/extensions/offline.ts") :=
  ⟨by decide, by decide,
    packages_linked { domains := ["user", "_item2"] } "mobile" (by decide) (by decide) (by decide)⟩

end Linkage

end ApiScaffold
