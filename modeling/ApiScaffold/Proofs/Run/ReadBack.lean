import ApiScaffold.Proofs.Run.Outcome

namespace ApiScaffold.Run

open Chain
open ArtifactSet (Consistent)
open ApiScaffold.Path (IsName ofString)

variable {config : Config} {selection : Selection} {sets : List ArtifactSet} {tree : FileTree}
    {cwd : Location}
variable {columns : Nat} {elapsed : Binary64}

lemma build_of_prepare (h : (prepare columns cwd config selection).result = .ok sets) :
    build config selection = .ok sets := by
  rw [prepare] at h
  simp only [Console.Told.result_bind] at h
  obtain ⟨-, -, h⟩ := bind_eq_ok.mp h
  obtain ⟨location, -, h⟩ := bind_eq_ok.mp h
  obtain ⟨-, -, h⟩ := bind_eq_ok.mp h
  cases hbuild : build config selection with
  | error fault => simp [hbuild, Console.Told.ofResult] at h
  | ok sets' => simpa [hbuild, Console.Told.ofResult] using h

lemma fault_eq_none_of_runAlong {r : Report} (course : ∀ sets, Course tree cwd config.outputDir sets)
    (h : (runAlong columns config selection elapsed course).2.result = .ok r) :
    ∃ sets, build config selection = .ok sets ∧
      (runAlong columns config selection elapsed course).1 = (course sets).last.tree ∧
      ∀ writer ∈ (course sets).last.writers, writer.fault = none := by
  cases hprepare : (prepare columns cwd config selection).result with
  | error fault =>
    rw [runAlong_of_error course hprepare] at h
    cases h
  | ok sets =>
    have hrun : runAlong columns config selection elapsed course = _ := runAlong_of_ok course hprepare
    rw [hrun] at h
    obtain ⟨⟨⟩, hsettled, -⟩ := bind_eq_ok.mp h
    refine ⟨sets, build_of_prepare hprepare, congrArg Prod.fst hrun, fun writer hwriter => ?_⟩
    cases hfault : writer.fault with
    | none => rfl
    | some fault =>
      have hwritten := forM_eq_ok.mp hsettled writer hwriter
      rw [result_settleWriter_of_fault hfault] at hwritten
      cases hwritten

/--
After a run that went well, on whatever course, each file can be read back with its content exactly
if files at the same place have the same content. That is so where all tokens are names and the
adapters are distinct names.
-/
theorem read_back_iff (tree : FileTree) (cwd : Location) (columns : Nat) (config : Config)
    (selection : Selection) (elapsed : Binary64) :
    (∃ course : ∀ sets, Course tree cwd config.outputDir sets,
      run tree cwd columns config selection elapsed = runAlong columns config selection elapsed course) ∧
    ∀ (course : ∀ sets, Course tree cwd config.outputDir sets) (r : Report),
      (runAlong columns config selection elapsed course).2.result = .ok r →
      ∃ sets, build config selection = .ok sets ∧
        ((∀ s ∈ sets, ∀ a ∈ s.artifacts, (runAlong columns config selection elapsed course).1.read cwd
          ((config.outputDir.join s.package).join a.path) = .ok a.content.toUTF8) ↔
            Consistent cwd config.outputDir sets) ∧
        ((∀ token ∈ config.domains, IsName token) → (∀ id ∈ config.adapters, '/' ∉ id.toList) →
          config.adapters.Nodup →
          Consistent cwd config.outputDir sets) := by
  refine ⟨exists_runAlong tree cwd columns config selection elapsed, fun course r hresult => ?_⟩
  obtain ⟨sets, hsets, htree, hfault⟩ := fault_eq_none_of_runAlong course hresult
  refine ⟨sets, hsets, ?_, consistent_of_build hsets⟩
  rw [htree]
  exact (course sets).sound.read_iff_consistent (course sets).finished hfault

lemma result_of_writeAll (hmarkup : config.Without '[') (hnull : config.Without '\x00')
    (hcwd : ∀ name ∈ cwd, '[' ∉ name.toList) (h : build config selection = .ok sets)
    (hwrites : ∀ fault ∈ (ArtifactSet.writeAll tree cwd config.outputDir sets).2, fault = none)
    (course : ∀ sets, Course tree cwd config.outputDir sets) (columns : Nat) {q : Rat} (hq : 0 ≤ q)
    (htime : elapsed.toRat? = some q) :
    (runAlong columns config selection elapsed course).2.result = .ok (reportOf config sets elapsed) := by
  have hfault := Writing.fault_eq_none_of_writeAll hwrites (course sets).steps
  rw [result_runAlong course (prepare_eq_ok hmarkup hnull hcwd h) (bare_of_build hmarkup h) hfault]
  exact result_sumUp hmarkup (bare_of_build hmarkup h) hq htime columns

def oneSecond : Binary64 := .finite false (Nat.pow 2 52) (-52)

lemma toRat?_oneSecond : oneSecond.toRat? = some 1 := by
  decide +kernel

theorem read_back_iff_userWeb : ∃ sets, build userWeb { contracts := true, adapters := true } = .ok sets ∧
    ∀ s ∈ sets, ∀ a ∈ s.artifacts,
    (run FileTree.empty [] 80 userWeb { contracts := true, adapters := true } oneSecond).1.read []
      ((userWeb.outputDir.join s.package).join a.path) = .ok a.content.toUTF8 := by
  obtain ⟨sets, hsets, hwrites⟩ := exists_build_userWeb
  obtain ⟨⟨course, hrun⟩, hall⟩ :=
    read_back_iff FileTree.empty [] 80 userWeb { contracts := true, adapters := true } oneSecond
  have hresult : (runAlong 80 userWeb { contracts := true, adapters := true } oneSecond course).2.result =
      .ok (reportOf userWeb sets oneSecond) :=
    result_of_writeAll userWeb_without.1 userWeb_without.2
      (List.forall_mem_nil _) hsets hwrites course 80 zero_le_one toRat?_oneSecond
  obtain ⟨sets, hbuilt, hread, hconsistent⟩ := hall course _ hresult
  rw [hrun]
  exact ⟨sets, hbuilt, hread.mpr (hconsistent (by decide) (by decide) (by decide))⟩

section Indices

open CorePackage (drafts useCaseDirectory)

def index (plan : Plan) : Draft :=
  .ofTemplate "src/use-cases/index.ts" Template.Core.useCasesIndex [("domains", domainsData plan.domains)]

def domainIndex (plan : Plan) (d : Domain) : Draft :=
  .ofTemplate (useCaseDirectory d ++ "index.ts") Template.Core.domainUseCasesIndex
    [("routes", routesData (plan.routesFor d))]

variable {plan : Plan} {d : Domain}

lemma index_mem : index plan ∈ drafts plan := by
  simp [drafts, index]

lemma domainIndex_mem (hd : d ∈ plan.domains) : domainIndex plan d ∈ drafts plan := by
  refine List.mem_append_right _ (List.mem_flatMap.mpr ⟨d, hd, ?_⟩)
  rw [CorePackage.useCases]
  exact List.mem_cons_self

lemma content_index : (index plan).content =
    .ok (String.join (plan.domains.map fun d =>
      "export * from './" ++ (d.token ++ ("/index.js';\n" ++ "")))) :=
  Template.renderNodes_loop (f := Domain.toData) rfl fun d _ last => by
    simp only [Template.renderNodes, Template.field]
    rfl

lemma content_domainIndex : (domainIndex plan d).content =
    .ok (String.join ((plan.routesFor d).map fun r =>
      "export * from './" ++ (r.useCaseModule ++ (".js';\n" ++ "")))) :=
  Template.renderNodes_loop (f := Route.toData) rfl fun r _ last => by
    simp only [Template.renderNodes]
    rfl

end Indices

def nameless : Config := { domains := [""] }

lemma nameless_without : nameless.Without '[' ∧ nameless.Without '\x00' :=
  ⟨⟨by decide, by decide, by decide⟩, ⟨by decide, by decide, by decide⟩⟩

lemma exists_build_nameless : ∃ core, build nameless { core := true } = .ok [core] ∧
    (∀ fault ∈ (ArtifactSet.writeAll FileTree.empty [] nameless.outputDir [core]).2, fault = none) ∧
    ¬ Consistent [] nameless.outputDir [core] := by
  have hcore : CorePackage.generate (Plan.ofConfig nameless) =
      .ok ⟨PackageName.core, (CorePackage.drafts (Plan.ofConfig nameless)).map Draft.artifact⟩ :=
    ArtifactSet.ofDrafts_eq_ok (CorePackage.rendered_drafts _) (by decide +kernel)
  have hbuild : build nameless { core := true } = [CorePackage.generate (Plan.ofConfig nameless)].mapM id :=
    rfl
  refine ⟨_, by rw [hbuild, hcore]; rfl, Writing.writeAll_of_hasRoom ?_, fun hconsistent => ?_⟩
  · rw [List.map_singleton, ArtifactSet.paths_ofDrafts]
    decide +kernel
  · have hall : index (Plan.ofConfig nameless) ∈ CorePackage.drafts (Plan.ofConfig nameless) := index_mem
    have hown : domainIndex (Plan.ofConfig nameless) ⟨""⟩ ∈ CorePackage.drafts (Plan.ofConfig nameless) :=
      domainIndex_mem (by decide)
    have hcontent := hconsistent _ List.mem_cons_self _ (List.mem_map_of_mem hall) _ List.mem_cons_self _
      (List.mem_map_of_mem hown) (by decide +kernel)
    rw [Draft.artifact, Draft.artifact, content_index, content_domainIndex] at hcontent
    exact absurd hcontent (by decide +kernel)

/--
The first file is written and the second takes its place: both paths lead to one file, and nothing
tells.
-/
theorem index_overwritten : nameless.adapters.Nodup ∧ ∃ r sets,
    (run FileTree.empty [] 200 nameless { core := true } oneSecond).2.result = .ok r ∧
    build nameless { core := true } = .ok sets ∧
    ¬ ∀ s ∈ sets, ∀ a ∈ s.artifacts, (run FileTree.empty [] 200 nameless { core := true } oneSecond).1.read []
      ((nameless.outputDir.join s.package).join a.path) = .ok a.content.toUTF8 := by
  obtain ⟨core, hbuild, hwrites, hinconsistent⟩ := exists_build_nameless
  obtain ⟨course, hrun⟩ := exists_runAlong FileTree.empty [] 200 nameless { core := true } oneSecond
  have hresult : (runAlong 200 nameless { core := true } oneSecond course).2.result =
      .ok (reportOf nameless [core] oneSecond) :=
    result_of_writeAll nameless_without.1 nameless_without.2
      (List.forall_mem_nil _) hbuild hwrites course 200 zero_le_one toRat?_oneSecond
  have hprepare : (prepare 200 [] nameless { core := true }).result = .ok [core] :=
    prepare_eq_ok nameless_without.1 nameless_without.2 (List.forall_mem_nil _) hbuild
  have htree : (runAlong 200 nameless { core := true } oneSecond course).1 = (course [core]).last.tree :=
    congrArg Prod.fst (runAlong_of_ok course hprepare)
  have hfault := Writing.fault_eq_none_of_writeAll hwrites (course [core]).steps
  have hread := (course [core]).sound.read_iff_consistent (course [core]).finished hfault
  refine ⟨by decide, _, [core], hrun ▸ hresult, hbuild, fun hall => hinconsistent (hread.mp ?_)⟩
  rw [← htree, ← hrun]
  exact hall

end ApiScaffold.Run
