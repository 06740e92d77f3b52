import ApiScaffold.Proofs.Package.Layout
import ApiScaffold.Proofs.Run.Places

namespace ApiScaffold.Run

open ArtifactSet (Consistent)
open ApiScaffold.Path (IsName ofString)
open Relation (ReflTransGen)
open Writing (Step start)

variable {config : Config} {selection : Selection} {sets : List ArtifactSet} {cwd : Location}

/--
Packages that can be written one after the other can be written in any order of their changes. The
end is the same tree, in which each file is found with its content.
-/
theorem writes_in_any_order {tree : FileTree} {w : Writing} (htokens : ∀ token ∈ config.domains, IsName token)
    (hids : ∀ id ∈ config.adapters, '/' ∉ id.toList) (hn : config.adapters.Nodup)
    (h : build config selection = .ok sets)
    (hwrites : ∀ fault ∈ (ArtifactSet.writeAll tree cwd config.outputDir sets).2, fault = none)
    (hsteps : ReflTransGen (Step cwd) (start tree config.outputDir sets) w) :
    (∀ writer ∈ w.writers, writer.fault = none) ∧ (∃ last, ReflTransGen (Step cwd) w last ∧ last.Finished) ∧
    (w.Finished →
      (∀ location, w.tree.get? location =
        (ArtifactSet.writeAll tree cwd config.outputDir sets).1.get? location) ∧
      ∀ s ∈ sets, ∀ a ∈ s.artifacts,
        w.tree.read cwd ((config.outputDir.join s.package).join a.path) = .ok a.content.toUTF8) := by
  have hconsistent : Consistent cwd config.outputDir sets := consistent_of_build h htokens hids hn
  have hfault := Writing.fault_eq_none_of_writeAll hwrites hsteps
  refine ⟨hfault, Writing.exists_finished cwd w,
    fun hw => ⟨Writing.get?_eq_writeAll hconsistent hwrites hsteps hw, ?_⟩⟩
  exact ((Writing.sound_of_steps hsteps).read_iff_consistent hw hfault).mpr hconsistent

def userWeb : Config := { domains := ["user"], adapters := ["web"] }

lemma exists_build_of_plain (h : Plain config) (hcaps : (config.domains.map Text.capitalize).Nodup)
    (selection : Selection) : ∃ sets, build config selection = .ok sets := by
  obtain ⟨sets, hsets, -⟩ :=
    exists_mapM_of_builds (forall₂_flatMap (forall₂_generate h hcaps) selection.targets)
  exact ⟨sets, hsets⟩

lemma exists_build_userWeb : ∃ sets, build userWeb { contracts := true, adapters := true } = .ok sets ∧
    ∀ fault ∈ (ArtifactSet.writeAll FileTree.empty [] userWeb.outputDir sets).2, fault = none := by
  have hplain : Plain userWeb := by
    unfold Plain
    decide
  obtain ⟨sets, hsets⟩ :=
    exists_build_of_plain hplain (by decide +kernel) { contracts := true, adapters := true }
  refine ⟨sets, hsets, Writing.writeAll_of_hasRoom ?_⟩
  rw [(layout_of_build hsets).1]
  decide +kernel

theorem writes_in_any_order_userWeb :
    ∃ sets w, build userWeb { contracts := true, adapters := true } = .ok sets ∧
    ReflTransGen (Step []) (start FileTree.empty userWeb.outputDir sets) w ∧ w.Finished ∧
    ∀ s ∈ sets, ∀ a ∈ s.artifacts,
      w.tree.read [] ((userWeb.outputDir.join s.package).join a.path) = .ok a.content.toUTF8 := by
  obtain ⟨sets, hsets, hwrites⟩ := exists_build_userWeb
  obtain ⟨w, hsteps, hw⟩ := Writing.exists_finished [] (start FileTree.empty userWeb.outputDir sets)
  have h := writes_in_any_order (by decide) (by decide) (by decide) hsets hwrites hsteps
  exact ⟨sets, w, hsets, hsteps, hw, (h.2.2 hw).2⟩

def StaysBelow (config : Config) : Prop :=
  ∀ token ∈ config.domains, '/' ∈ token.toList → ".." ∉ (ofString token).segments

lemma exists_below_root (hbelow : StaysBelow config) (h : build config selection = .ok sets) {s : ArtifactSet}
    (hs : s ∈ sets) {a : Artifact} (ha : a ∈ s.artifacts) : ∃ names, names ≠ [] ∧
      (s.target config.outputDir a).resolve cwd = (s.root config.outputDir).resolve cwd ++ names := by
  obtain ⟨names, hne, hnames⟩ := ((places_of_build h hs).2 _ (List.mem_map_of_mem ha)).exists_descend hbelow
  exact ⟨names, hne, by rw [resolve_target h hs ha, hnames]⟩

lemma file_of_write {s : ArtifactSet} {outputDir : Path} {tree : FileTree} {location : Location}
    {content : ByteArray} (h : (s.write tree cwd outputDir).tree.get? location = some (.file content)) :
    tree.get? location = some (.file content) ∨ ∃ a ∈ s.artifacts,
    location = (s.target outputDir a).resolve cwd := by
  rcases FileTree.covered_applyAll tree cwd (s.changes outputDir) location with heq | ⟨change, hchange,
    hcovers, hentry⟩
  · exact .inl (heq.symm.trans h)
  · have hfile : change.entry = .file content := Option.some.inj (hentry.symm.trans h)
    obtain rfl | ⟨a, ha, rfl | rfl⟩ := ArtifactSet.mem_changes.mp hchange
    · cases hfile
    · cases hfile
    · exact .inr ⟨a, ha, hcovers⟩

lemma target_mem {s : ArtifactSet} {path : String} (hpath : path ∈ s.paths) (outputDir : Path) :
    (s.root outputDir).join path ∈ s.targets outputDir := by
  obtain ⟨a, ha, rfl⟩ := List.mem_map.mp hpath
  exact List.mem_map_of_mem ha

lemma manifest_mem (h : build config selection = .ok sets) {s : ArtifactSet} (hs : s ∈ sets) :
    (s.root config.outputDir).join "package.json" ∈ s.targets config.outputDir := by
  have hlayout : ∀ target, ∀ expected ∈ layout config target, "package.json" ∈ expected.2 := by
    intro target
    cases target with
    | core => simp [layout, CorePackage.drafts, Draft.path_text]
    | contracts => simp [layout, ContractsPackage.drafts, Draft.path_text]
    | adapters => simp [layout, AdapterPackage.drafts, Draft.path_text]
  have hmem : (s.package, s.paths) ∈ selection.targets.flatMap (layout config) := by
    rw [← (layout_of_build h).1]
    exact List.mem_map_of_mem hs
  obtain ⟨target, -, hexpected⟩ := List.mem_flatMap.mp hmem
  exact target_mem (hlayout target _ hexpected) config.outputDir

/--
The files of a package are below its directory, and packages share no file exactly if no adapter comes
twice: for all tokens but those of several segments with a step up, and for adapters of one segment.
-/
theorem packages_apart (hbelow : StaysBelow config) (h : build config selection = .ok sets) (cwd : Location) :
    (∀ s ∈ sets, ∀ target ∈ s.targets config.outputDir, ∃ names, names ≠ [] ∧
      target.resolve cwd = (s.root config.outputDir).resolve cwd ++ names) ∧
    (∀ s ∈ sets, ∀ tree location content,
      (s.write tree cwd config.outputDir).tree.get? location = some (.file content) →
      tree.get? location = some (.file content) ∨
        ∃ names, names ≠ [] ∧ location = (s.root config.outputDir).resolve cwd ++ names) ∧
    ((∀ id ∈ config.adapters, '/' ∉ id.toList) →
      ((sets.Pairwise fun s t => ∀ p ∈ s.targets config.outputDir, ∀ q ∈ t.targets config.outputDir,
        p.resolve cwd ≠ q.resolve cwd) ↔ (.adapters ∈ selection.targets → config.adapters.Nodup))) := by
  have hbelow' : ∀ s ∈ sets, ∀ target ∈ s.targets config.outputDir, ∃ names, names ≠ [] ∧
      target.resolve cwd = (s.root config.outputDir).resolve cwd ++ names := by
    intro s hs target htarget
    obtain ⟨a, ha, rfl⟩ := List.mem_map.mp htarget
    exact exists_below_root hbelow h hs ha
  refine ⟨hbelow', fun s hs tree location content hwritten => ?_, fun hids => ?_⟩
  · refine (file_of_write hwritten).imp_right ?_
    rintro ⟨a, ha, rfl⟩
    exact exists_below_root hbelow h hs ha
  · rw [← nodup_packages, ← packages_of_build h, List.Nodup, List.pairwise_map]
    refine List.Pairwise.iff_of_mem fun {s t} hs ht => ?_
    constructor
    · intro hapart hpackage
      refine hapart _ (manifest_mem h hs) _ (manifest_mem h ht) ?_
      rw [ArtifactSet.root, ArtifactSet.root, hpackage]
    · intro hne p hp q hq heq
      obtain ⟨names, -, hp⟩ := hbelow' s hs p hp
      obtain ⟨others, -, hq⟩ := hbelow' t ht q hq
      rw [hp, hq, resolve_root h hids hs, resolve_root h hids ht, List.append_assoc, List.append_assoc,
        List.append_cancel_left_eq, List.singleton_append, List.singleton_append, List.cons.injEq] at heq
      exact hne heq.1

theorem packages_apart_userWeb : ∃ sets, build userWeb { contracts := true, adapters := true } = .ok sets ∧
    StaysBelow userWeb ∧ sets.Pairwise fun s t => ∀ p ∈ s.targets userWeb.outputDir,
    ∀ q ∈ t.targets userWeb.outputDir, p.resolve [] ≠ q.resolve [] := by
  have hbelow : StaysBelow userWeb := by
    unfold StaysBelow
    decide
  obtain ⟨sets, hsets, -⟩ := exists_build_userWeb
  exact ⟨sets, hsets, hbelow, ((packages_apart hbelow hsets []).2.2 (by decide)).mpr fun _ => by decide⟩

/-- With this token the index of its use cases takes the place of the index of the contracts. -/
theorem packages_overlap : ∃ core contracts,
    build { domains := ["../../../contracts/src"] } { core := true, contracts := true } =
      .ok [core, contracts] ∧
    ∃ p ∈ core.targets ⟨.relative, ["packages"]⟩, ∃ q ∈ contracts.targets ⟨.relative, ["packages"]⟩,
      p.resolve [] = q.resolve [] ∧ ¬ (core.root ⟨.relative, ["packages"]⟩).resolve [] <+: p.resolve [] := by
  let plan := Plan.ofConfig { domains := ["../../../contracts/src"] }
  have hcore : CorePackage.generate plan =
      .ok ⟨PackageName.core, (CorePackage.drafts plan).map Draft.artifact⟩ :=
    ArtifactSet.ofDrafts_eq_ok (CorePackage.rendered_drafts plan) (by decide +kernel)
  have hcontracts : ContractsPackage.generate plan =
      .ok ⟨PackageName.contracts, (ContractsPackage.drafts plan).map Draft.artifact⟩ :=
    ArtifactSet.ofDrafts_eq_ok (ContractsPackage.rendered_drafts plan) (by decide +kernel)
  have hbuild : build { domains := ["../../../contracts/src"] } { core := true, contracts := true } =
      [CorePackage.generate plan, ContractsPackage.generate plan].mapM id := rfl
  have hindex : "src/use-cases/../../../contracts/src/index.ts" ∈
      ArtifactSet.paths ⟨PackageName.core, (CorePackage.drafts plan).map Draft.artifact⟩ := by
    rw [ArtifactSet.paths_ofDrafts]
    decide +kernel
  have hother : "src/index.ts" ∈
      ArtifactSet.paths ⟨PackageName.contracts, (ContractsPackage.drafts plan).map Draft.artifact⟩ := by
    rw [ArtifactSet.paths_ofDrafts]
    decide +kernel
  refine ⟨_,
    _, by rw [hbuild, hcore, hcontracts]; rfl, _, target_mem hindex _, _, target_mem hother _, ?_, ?_⟩
  · decide +kernel
  · decide +kernel

end ApiScaffold.Run
