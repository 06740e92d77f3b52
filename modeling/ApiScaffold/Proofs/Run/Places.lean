import ApiScaffold.Proofs.Package.Adapter
import ApiScaffold.Proofs.Package.Core
import ApiScaffold.Proofs.Package.Order
import ApiScaffold.Proofs.Package.Place
import ApiScaffold.Proofs.Run.Build

namespace ApiScaffold

open Chain

variable {plan : Plan} (hr : plan.routes = RouteTable.ofDomains plan.domains)

def Plan.tokens (plan : Plan) : List String := plan.domains.map Domain.token

lemma Plan.token_mem {d : Domain} (hd : d ∈ plan.domains) : d.token ∈ plan.tokens := List.mem_map_of_mem hd

namespace CorePackage

lemma place_useCase {d : Domain} (hd : d ∈ plan.domains) {r : Route} (hroute : r ∈ d.routes) :
    Place plan.tokens (useCase d r).path := by
  have hplace (f : Frame) (hf : f ∈ useCaseFrames)
      (heq : r.useCaseModule ++ ".ts" = f.stem ++ d.capitalized ++ f.ending) :
      Place plan.tokens (useCase d r).path := by
    have hpath : (useCase d r).path = "src/use-cases" ++ "/" ++ d.token ++ "/" ++ f.file d.token := by
      rw [useCase, Draft.ofTemplate, useCaseDirectory, String.append_assoc, heq]
      simp [Frame.file, Domain.capitalized]
    rw [hpath]
    exact .useCase hf (Plan.token_mem hd)
  have hmodule := useCaseModules d ▸ List.mem_map_of_mem hroute
  simp only [List.mem_cons, List.not_mem_nil, or_false] at hmodule
  rcases hmodule with hlist | hcreate | hget
  · exact hplace ⟨"List", "s.ts"⟩ (by decide)
      (by simp [hlist, Domain.pluralCapitalized_eq, ← String.toList_inj])
  · exact hplace ⟨"Create", ".ts"⟩ (by decide) (by rw [hcreate])
  · exact hplace ⟨"Get", ".ts"⟩ (by decide) (by rw [hget])

include hr in
lemma place_drafts : ∀ draft ∈ drafts plan, Place plan.tokens draft.path := by
  simp only [drafts, List.forall_mem_append, List.forall_mem_cons, List.forall_mem_map,
    List.forall_mem_flatMap, Draft.path_text, Draft.path_ofTemplate]
  refine ⟨⟨⟨⟨⟨⟨.fixed (by decide), .fixed (by decide), .fixed (by decide), List.forall_mem_nil _⟩,
    fun d hd => ?_⟩,
    .fixed (by decide), .fixed (by decide), .fixed (by decide), .fixed (by decide), List.forall_mem_nil _⟩,
      fun d hd => ?_⟩, .fixed (by decide), List.forall_mem_nil _⟩, fun d hd => ?_⟩
  · have hpath : (model d).path = "src/domain/models" ++ "/" ++ Frame.file ⟨"", ".ts"⟩ d.token := by
      simp [model, Draft.ofTemplate, Frame.file, Domain.capitalized, ← String.toList_inj]
    exact hpath ▸ .named (by decide) (Plan.token_mem hd)
  · have hpath : (repository d).path = "src/ports" ++ "/" ++ Frame.file ⟨"I", "Repository.ts"⟩ d.token := by
      simp [repository, Draft.ofTemplate, Frame.file, Domain.repositoryName_eq, Domain.capitalized,
        ← String.toList_inj]
    exact hpath ▸ .named (by decide) (Plan.token_mem hd)
  · have hindex : useCaseDirectory d ++ "index.ts" =
        "src/use-cases" ++ "/" ++ d.token ++ "/" ++ "index.ts" := by
      simp [useCaseDirectory]
    rintro draft (_ | ⟨_, hdraft⟩)
    · exact hindex ▸ .index (Plan.token_mem hd)
    · obtain ⟨r, hroute, rfl⟩ := List.mem_map.mp hdraft
      rw [Plan.routesFor, hr] at hroute
      exact place_useCase hd (RouteTable.mem_routesFor.mp hroute).2

end CorePackage

namespace ContractsPackage

lemma place_drafts (plan : Plan) : ∀ draft ∈ drafts plan, Place plan.tokens draft.path := by
  have hgraphql : ∀ draft ∈ graphql plan, Place plan.tokens draft.path := by
    intro draft hdraft
    unfold graphql at hdraft
    split at hdraft
    · rw [List.mem_singleton.mp hdraft, Draft.path_text]
      exact .fixed (by decide)
    · cases hdraft
  simp only [drafts, List.forall_mem_append, List.forall_mem_cons, List.forall_mem_map, Draft.path_text,
    Draft.path_ofTemplate]
  refine ⟨⟨⟨⟨.fixed (by decide), .fixed (by decide), .fixed (by decide), List.forall_mem_nil _⟩,
    fun d hd => ?_⟩, .fixed (by decide), .fixed (by decide), List.forall_mem_nil _⟩, hgraphql⟩
  have hpath : (schema d).path = "schemas" ++ "/" ++ Frame.file ⟨"", ".schema.json"⟩ d.token := by
    simp [schema, Draft.text, Frame.file, Domain.capitalized, ← String.toList_inj]
  exact hpath ▸ .named (by decide) (Plan.token_mem hd)

end ContractsPackage

namespace AdapterPackage

lemma place_drafts (plan : Plan) (adapterId : String) (profile : Profile) :
    ∀ draft ∈ drafts plan adapterId profile, Place plan.tokens draft.path := by
  have hoffline : ∀ draft ∈ (if profile.offline then [Draft.ofTemplate "src/extensions/offline.ts"
      Template.Adapter.offline (context plan adapterId profile)] else []), Place plan.tokens draft.path := by
    intro draft hdraft
    split at hdraft
    · rw [List.mem_singleton.mp hdraft, Draft.path_ofTemplate]
      exact .fixed (by decide)
    · cases hdraft
  simp only [drafts, List.forall_mem_append, List.forall_mem_cons, List.forall_mem_map, Draft.path_text,
    Draft.path_ofTemplate]
  refine ⟨⟨⟨⟨.fixed (by decide), .fixed (by decide), .fixed (by decide), .fixed (by decide),
    .fixed (by decide),
    .fixed (by decide), .fixed (by decide), List.forall_mem_nil _⟩, hoffline⟩, fun d hd => ?_⟩,
      .fixed (by decide), List.forall_mem_nil _⟩
  have hpath : (controller plan (context plan adapterId profile) d).path =
      "src/controllers" ++ "/" ++ Frame.file ⟨"", "Controller.ts"⟩ d.token := by
    simp [controller, Draft.ofTemplate, Frame.file, Domain.controllerName_eq, Domain.capitalized,
      ← String.toList_inj]
  exact hpath ▸ .named (by decide) (Plan.token_mem hd)

end AdapterPackage

namespace Run

open ArtifactSet (Consistent)
open ApiScaffold.Path (IsName Tidy ofString descend)

variable {config : Config} {selection : Selection} {sets : List ArtifactSet} {cwd : Location}

def layout (config : Config) : Target → List (String × List String)
  | .core => [(PackageName.core, (CorePackage.drafts (.ofConfig config)).map Draft.path)]
  | .contracts => [(PackageName.contracts, (ContractsPackage.drafts (.ofConfig config)).map Draft.path)]
  | .adapters => config.adapters.map fun id =>
    (PackageName.adapter id,
      (AdapterPackage.drafts (.ofConfig config) id (Profile.resolve id)).map Draft.path)

def Built (tokens : List String) (result : Except BuildFault ArtifactSet)
    (expected : String × List String) : Prop :=
  ∀ s, result = .ok s → (s.package, s.paths) = expected ∧ s.paths.Nodup ∧ ∀ path ∈ s.paths, Place tokens path

lemma built_ofDrafts {tokens : List String} {drafts : List Draft} (package : String)
    (h : ∀ d ∈ drafts, Place tokens d.path) :
    Built tokens (ArtifactSet.ofDrafts package drafts) (package, drafts.map Draft.path) := by
  intro s hs
  obtain ⟨hpackage, hpaths, hn⟩ := ArtifactSet.paths_of_ofDrafts_eq_ok hs
  refine ⟨by rw [hpackage, hpaths], hn, fun path hpath => ?_⟩
  rw [hpaths] at hpath
  obtain ⟨d, hd, rfl⟩ := List.mem_map.mp hpath
  exact h d hd

lemma forall₂_built (config : Config) (target : Target) :
    List.Forall₂ (Built config.domains) (generate (Plan.ofConfig config) target) (layout config target) := by
  have htokens : (Plan.ofConfig config).tokens = config.domains := by
    simp [Plan.tokens, Plan.ofConfig, Function.comp_def]
  cases target with
  | core => exact .cons (built_ofDrafts _ (htokens ▸ CorePackage.place_drafts rfl)) .nil
  | contracts => exact .cons (built_ofDrafts _ (htokens ▸ ContractsPackage.place_drafts _)) .nil
  | adapters =>
    rw [generate, layout, List.forall₂_map_left_iff, List.forall₂_map_right_iff]
    exact List.forall₂_same.mpr fun id _ => built_ofDrafts _ (htokens ▸ AdapterPackage.place_drafts _ id _)

lemma layout_of_mapM {tokens : List String} {results : List (Except BuildFault ArtifactSet)}
    {expected : List (String × List String)} (h : List.Forall₂ (Built tokens) results expected)
    (hok : results.mapM id = .ok sets) : sets.map (fun s => (s.package, s.paths)) = expected ∧
      ∀ s ∈ sets, s.paths.Nodup ∧ ∀ path ∈ s.paths, Place tokens path := by
  induction h generalizing sets with
  | nil =>
    cases hok
    exact ⟨rfl, List.forall_mem_nil _⟩
  | cons hbuilt _ ih =>
    rw [List.mapM_cons] at hok
    obtain ⟨s, hs, hok⟩ := bind_eq_ok.mp hok
    obtain ⟨rest, hrest, hok⟩ := bind_eq_ok.mp hok
    cases hok
    obtain ⟨hexpected, hplaces⟩ := hbuilt s hs
    obtain ⟨hothers, hmore⟩ := ih hrest
    exact ⟨by rw [List.map_cons, hexpected, hothers], List.forall_mem_cons.mpr ⟨hplaces, hmore⟩⟩

lemma layout_of_build (h : build config selection = .ok sets) :
    sets.map (fun s => (s.package, s.paths)) = selection.targets.flatMap (layout config) ∧
      ∀ s ∈ sets, s.paths.Nodup ∧ ∀ path ∈ s.paths, Place config.domains path :=
  layout_of_mapM (forall₂_flatMap (forall₂_built config) selection.targets) h

def packages (config : Config) : Target → List String
  | .core => [PackageName.core]
  | .contracts => [PackageName.contracts]
  | .adapters => config.adapters.map PackageName.adapter

lemma map_fst_layout (config : Config) (target : Target) :
    (layout config target).map Prod.fst = packages config target := by
  cases target with
  | core | contracts => rfl
  | adapters => simp [layout, packages]

lemma packages_of_build (h : build config selection = .ok sets) :
    sets.map ArtifactSet.package = selection.targets.flatMap (packages config) := by
  have hfirst := congrArg (List.map Prod.fst) (layout_of_build h).1
  simp only [List.map_map, List.map_flatMap, map_fst_layout] at hfirst
  exact hfirst

lemma places_of_build (h : build config selection = .ok sets) {s : ArtifactSet} (hs : s ∈ sets) :
    s.paths.Nodup ∧ ∀ path ∈ s.paths, Place config.domains path := (layout_of_build h).2 s hs

lemma nodup_packages : (selection.targets.flatMap (packages config)).Nodup ↔
    (.adapters ∈ selection.targets → config.adapters.Nodup) := by
  have hadapters : (config.adapters.map PackageName.adapter).Nodup ↔ config.adapters.Nodup :=
    List.nodup_map_iff fun a b h => by simpa [PackageName.adapter, ← String.toList_inj] using h
  have hne (name : String) (hname : name.toList.head? ≠ some 'a') :
      ∀ id ∈ config.adapters, PackageName.adapter id ≠ name := by
    rintro id - rfl
    simp [PackageName.adapter] at hname
  have hcore := hne PackageName.core (by decide)
  have hcontracts := hne PackageName.contracts (by decide)
  have hdistinct : PackageName.core ≠ PackageName.contracts := by decide
  obtain ⟨core, contracts, adapters⟩ := selection
  cases core <;> cases contracts <;> cases adapters <;>
    simp +contextual [Selection.targets, Selection.wants, List.filter, packages, hadapters, hcore,
      hcontracts, hdistinct]

lemma package_mem (h : build config selection = .ok sets) {s : ArtifactSet} (hs : s ∈ sets) :
    s.package ∈ selection.targets.flatMap (packages config) := by
  rw [← packages_of_build h]
  exact List.mem_map_of_mem hs

lemma mem_packages {name : String} (h : name ∈ selection.targets.flatMap (packages config)) :
    name = PackageName.core ∨ name = PackageName.contracts ∨
    ∃ id ∈ config.adapters, name = PackageName.adapter id := by
  obtain ⟨target, -, hname⟩ := List.mem_flatMap.mp h
  cases target with
  | core => exact .inl (List.mem_singleton.mp hname)
  | contracts => exact .inr (.inl (List.mem_singleton.mp hname))
  | adapters =>
    obtain ⟨id, hid, rfl⟩ := List.mem_map.mp hname
    exact .inr (.inr ⟨id, hid, rfl⟩)

lemma root_package (h : build config selection = .ok sets) {s : ArtifactSet} (hs : s ∈ sets) :
    (ofString s.package).root = .relative := by
  rcases mem_packages (package_mem h hs) with hname | hname | ⟨id, -, hname⟩ <;> rw [hname]
  · decide
  · decide
  · have hhead : (PackageName.adapter id).toList = 'a' :: ("dapter-" ++ id).toList := by
      simp [PackageName.adapter]
    exact Path.root_ofString hhead (by decide)

lemma isName_package (h : build config selection = .ok sets) (hids : ∀ id ∈ config.adapters, '/' ∉ id.toList)
    {s : ArtifactSet} (hs : s ∈ sets) : IsName s.package := by
  rcases mem_packages (package_mem h hs) with hname | hname | ⟨id, hid, hname⟩ <;> rw [hname]
  · decide
  · decide
  · exact Path.isName_of_length (by simp [PackageName.adapter]) (by simp [PackageName.adapter, hids id hid])

lemma resolve_target (h : build config selection = .ok sets) {s : ArtifactSet} (hs : s ∈ sets) {a : Artifact}
    (ha : a ∈ s.artifacts) : (s.target config.outputDir a).resolve cwd =
      descend ((s.root config.outputDir).resolve cwd) (ofString a.path).segments :=
  Path.resolve_join _ ((places_of_build h hs).2 _ (List.mem_map_of_mem ha)).root

lemma resolve_root (h : build config selection = .ok sets) (hids : ∀ id ∈ config.adapters, '/' ∉ id.toList)
    {s : ArtifactSet} (hs : s ∈ sets) :
    (s.root config.outputDir).resolve cwd = config.outputDir.resolve cwd ++ [s.package] := by
  have hname := isName_package h hids hs
  rw [ArtifactSet.root, Path.resolve_join _ (root_package h hs), hname.segments]
  exact Path.descend_of_notMem (by simpa using hname.2.2.1.symm) _

lemma consistent_of_build (h : build config selection = .ok sets)
    (htokens : ∀ token ∈ config.domains, IsName token)
    (hids : ∀ id ∈ config.adapters, '/' ∉ id.toList) (hn : config.adapters.Nodup) :
    Consistent cwd config.outputDir sets := by
  intro s hs a ha t ht b hb hplace
  have hresolve {s : ArtifactSet} (hs : s ∈ sets) {a : Artifact} (ha : a ∈ s.artifacts) :
      Tidy a.path ∧ (s.target config.outputDir a).resolve cwd =
        config.outputDir.resolve cwd ++ s.package :: (ofString a.path).segments := by
    have htidy := ((places_of_build h hs).2 _ (List.mem_map_of_mem ha)).tidy htokens
    refine ⟨htidy, ?_⟩
    rw [resolve_target h hs ha, resolve_root h hids hs, Path.descend_segments htidy.notMem_parts,
      List.append_assoc, List.singleton_append]
  obtain ⟨htidy, hs'⟩ := hresolve hs ha
  obtain ⟨htidy', ht'⟩ := hresolve ht hb
  rw [hs', ht', List.append_cancel_left_eq, List.cons.injEq] at hplace
  obtain rfl : s = t :=
    List.inj_on_of_nodup_map (packages_of_build h ▸ nodup_packages.mpr fun _ => hn) hs ht hplace.1
  have hpath : a.path = b.path := htidy.eq_of_segments htidy' hplace.2
  rw [List.inj_on_of_nodup_map (places_of_build h hs).1 ha hb hpath]

end Run

end ApiScaffold
