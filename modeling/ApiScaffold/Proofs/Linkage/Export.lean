import ApiScaffold.Proofs.Linkage.Core

namespace ApiScaffold

open Template Text Linkage

def ArtifactSet.Exports (s : ArtifactSet) (importer path : String) : Prop :=
  ∃ a ∈ s.artifacts, a.path = importer ∧ ∃ specifier ∈ starred a.content,
    destination importer specifier = some path

lemma ArtifactSet.exports_of_mem {drafts : List Draft} {d : Draft} {specifier path : String} (hd : d ∈ drafts)
    (hspecifier : specifier ∈ starred d.artifact.content) (htarget : destination d.path specifier = some path)
    (package : String) :
    Exports ⟨package, drafts.map Draft.artifact⟩ d.path path :=
  ⟨d.artifact, List.mem_map_of_mem hd, rfl, specifier, hspecifier, htarget⟩

namespace CorePackage

open Node

variable {plan : Plan} {d : Domain} {r : Route}

lemma slicesTo_index_stars : SlicesTo [starStart] (domainsEnv true) Template.Core.index indexStatements := by
  unfold indexStatements modelExport
  apply SlicesTo.intro
  · cbv
    repeat' constructor
  · cbv

lemma slicesTo_directories_stars :
    SlicesTo [starStart] (domainsEnv true) Template.Core.useCasesIndex directoryStatements := by
  unfold directoryStatements directoryExport
  apply SlicesTo.intro
  · cbv
    repeat' constructor
  · cbv

lemma slicesTo_useCases_stars : SlicesTo [starStart]
    (routesEnv true) Template.Core.domainUseCasesIndex useCaseExports := by
  unfold useCaseExports useCaseExport
  apply SlicesTo.intro
  · cbv
    repeat' constructor
  · cbv

section

variable (h : ∀ d ∈ plan.domains, isWord d.token.toList)

include h

lemma starred_index : starred (index plan).artifact.content =
    (plan.domains.flatMap fun d => ["./domain/models" ++ "/" ++ d.capitalized ++ ".js"]) ++
      ["./domain/errors/DomainError.js", "./ports/index.js", "./use-cases/index.js"] :=
  Draft.filterMap_ofTemplate (rendered_drafts plan _ (by simp [drafts]))
    (fits_domains true fun d hd _ => h d hd) (by decide)
    (by decide) slicesTo_index_stars (reads_indexStatements h)

lemma starred_directories : starred (directories plan).artifact.content =
    plan.domains.flatMap fun d => ["." ++ "/" ++ d.token ++ "/" ++ "index" ++ ".js"] :=
  Draft.filterMap_ofTemplate (rendered_drafts plan _ (by simp [drafts]))
    (fits_domains true fun d hd _ => h d hd)
    (by decide) (by decide) slicesTo_directories_stars (reads_directoryStatements h)

variable (hr : plan.routes = RouteTable.ofDomains plan.domains) (hd : d ∈ plan.domains)

include hr hd

lemma starred_directory : starred (directory plan d).artifact.content =
    (plan.routesFor d).flatMap fun r => ["." ++ "/" ++ r.useCaseModule ++ ".js"] := by
  have hop : ∀ r ∈ plan.routesFor d, isWord r.operationId.toList := fun r hroute =>
    Domain.isWord_operationId (h d hd) (mem_routes_of_mem_routesFor hr hroute)
  exact Draft.filterMap_ofTemplate (rendered_drafts plan _ (directory_mem hd))
    (fits_directory hr (h d hd)) (by decide) (by decide) slicesTo_useCases_stars (reads_useCaseExports hop)

lemma exports_useCase (hname : Path.IsName d.token) (hroute : r ∈ plan.routesFor d) (package : String) :
    List.IsChain (ArtifactSet.Exports ⟨package, (drafts plan).map Draft.artifact⟩)
      [(index plan).path, (directories plan).path, (directory plan d).path, (useCase d r).path] := by
  have hop := Domain.isWord_operationId (h d hd) (mem_routes_of_mem_routesFor hr hroute)
  have hindex : "./use-cases/index.js" ∈ starred (index plan).artifact.content := by
    rw [starred_index h]
    exact List.mem_append_right _ (by simp)
  have hdirectories : "." ++ "/" ++ d.token ++ "/" ++ "index" ++ ".js" ∈
      starred (directories plan).artifact.content := by
    rw [starred_directories h]
    exact List.mem_flatMap.mpr ⟨d, hd, List.mem_singleton_self _⟩
  have hdirectory : "." ++ "/" ++ r.useCaseModule ++ ".js" ∈ starred (directory plan d).artifact.content := by
    rw [starred_directory h hr hd]
    exact List.mem_flatMap.mpr ⟨r, hroute, List.mem_singleton_self _⟩
  have hfirst : destination (index plan).path "./use-cases/index.js" = some (directories plan).path :=
    (by decide : destination "src/index.ts" "./use-cases/index.js" = some "src/use-cases/index.ts")
  have hlast := destination_useCase (d := d) (r := r) plan (notMem_slash (isWord_capitalize hop))
  simp only [List.isChain_cons_cons]
  exact ⟨ArtifactSet.exports_of_mem (by simp [drafts, index]) hindex hfirst package,
    ArtifactSet.exports_of_mem (by simp [drafts, directories]) hdirectories
      (destination_directory plan hname) package,
    ArtifactSet.exports_of_mem (directory_mem hd) hdirectory hlast package, .singleton _⟩

end

end CorePackage

end ApiScaffold
