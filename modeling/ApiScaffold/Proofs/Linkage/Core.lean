import ApiScaffold.Proofs.Linkage.Specifier
import ApiScaffold.Proofs.Package.Core
import Mathlib

namespace ApiScaffold

open Template Text Chain Linkage

namespace CorePackage

open Node

variable {plan : Plan} {d : Domain} {r : Route} {scope : Scope} {source : String}

lemma data_domains (domains : List Domain) :
    (var "domains").data (.ofContext [("domains", domainsData domains)]) =
    .ok (.list (domains.map Domain.toData)) := rfl

def modelExport : List Node :=
  [text "export * from './domain/models/", field "domain" ["capitalized"], text ".js';\n"]

lemma reads_modelExport (scope : Scope) (h : isWord d.token.toList) :
    Reads specifier? (scope.bind "domain" d.toData) modelExport
      ["./domain/models" ++ "/" ++ d.capitalized ++ ".js"] := by
  have hrender : renderNodes (scope.bind "domain" d.toData) modelExport =
      .ok ("export * from './domain/models/" ++ (d.capitalized ++ (".js';\n" ++ ""))) := by
    simp only [modelExport, renderNodes, field]
    rfl
  exact reads_statement "export * from " _ hrender (by simp [← String.toList_inj]) (plain_of_chars rfl rfl)
    (plain_specifier (plain_of_chars rfl rfl) (Domain.isWord_capitalized h))

def indexStatements : Template := [
  forEach "domain" (var "domains") modelExport [], text "export * from './domain/errors/DomainError.js';\n",
  text "export * from './ports/index.js';\n", text "export * from './use-cases/index.js';\n"]

lemma slicesTo_indexStatements :
    SlicesTo Linkage.starts (domainsEnv true) Template.Core.index indexStatements := by
  unfold indexStatements modelExport
  apply SlicesTo.intro
  · cbv
    repeat' constructor
  · cbv

lemma reads_indexStatements (h : ∀ d ∈ plan.domains, isWord d.token.toList) :
    Reads specifier? (.ofContext [("domains", domainsData plan.domains)]) indexStatements
      ((plan.domains.flatMap fun d => ["./domain/models" ++ "/" ++ d.capitalized ++ ".js"]) ++
        ["./domain/errors/DomainError.js", "./ports/index.js", "./use-cases/index.js"]) := by
  refine .forEach (data_domains _) (fun d hd last => reads_modelExport _ (h d hd)) ?_
  exact .text rfl rfl rfl (.text rfl rfl rfl (.text rfl rfl rfl .nil))

def modelStatements : Template := [text "import \x7b z \x7d from 'zod';\n"]

lemma slicesTo_model : SlicesTo Linkage.starts (modelEnv true) Template.Core.model modelStatements := by
  unfold modelStatements
  apply SlicesTo.intro
  · cbv
    repeat' constructor
  · cbv

lemma slicesTo_domainError : SlicesTo Linkage.starts errorsEnv Template.Core.domainError [] := by
  apply SlicesTo.intro
  · cbv
    repeat' constructor
  · cbv

lemma slicesTo_pagination : SlicesTo Linkage.starts [] Template.Core.pagination [] := by
  apply SlicesTo.intro
  · cbv
    repeat' constructor
  · cbv

lemma slicesTo_services : SlicesTo Linkage.starts [] Template.Core.services [] := by
  apply SlicesTo.intro
  · cbv
    repeat' constructor
  · cbv

def repositoryExport : List Node :=
  [text "export * from './", field "domain" ["repository_name"], text ".js';\n"]

lemma reads_repositoryExport (scope : Scope) (h : isWord d.token.toList) :
    Reads specifier? (scope.bind "domain" d.toData) repositoryExport
      ["." ++ "/" ++ d.repositoryName ++ ".js"] := by
  have hrender : renderNodes (scope.bind "domain" d.toData) repositoryExport =
      .ok ("export * from './" ++ (d.repositoryName ++ (".js';\n" ++ ""))) := by
    simp only [repositoryExport, renderNodes, field]
    rfl
  exact reads_statement "export * from " _ hrender (by simp [← String.toList_inj]) (plain_of_chars rfl rfl)
    (plain_specifier (plain_of_chars rfl rfl) (Domain.isWord_repositoryName h))

def portsStatements : Template := [
  text "export * from './pagination.js';\n", text "export * from './IServices.js';\n",
  forEach "domain" (var "domains") repositoryExport []]

lemma slicesTo_ports :
    SlicesTo Linkage.starts (domainsEnv true) Template.Core.portsIndex portsStatements := by
  unfold portsStatements repositoryExport
  apply SlicesTo.intro
  · cbv
    repeat' constructor
  · cbv

def modelImport : List Node := [
  text "import \x7b ", field "domain" ["capitalized"], text " \x7d from '../domain/models/",
  field "domain" ["capitalized"], text ".js';\n"]

lemma reads_modelImport (h : isWord d.token.toList) :
    Reads specifier? (.ofContext [("domain", d.toData)]) modelImport
    ["../domain/models" ++ "/" ++ d.capitalized ++ ".js"] := by
  have hrender : renderNodes (.ofContext [("domain", d.toData)]) modelImport =
      .ok ("import \x7b " ++ (d.capitalized ++
      (" \x7d from '../domain/models/" ++ (d.capitalized ++ (".js';\n" ++ ""))))) := by
    simp only [modelImport, renderNodes, field]
    rfl
  have hcap := Domain.isWord_capitalized h
  exact reads_statement ("import \x7b " ++ d.capitalized ++ " \x7d from ") _ hrender
    (by simp [← String.toList_inj])
    (((plain_of_chars rfl rfl).append (plain_of_isWord hcap)).append (plain_of_chars rfl rfl))
    (plain_specifier (plain_of_chars rfl rfl) hcap)

def repositoryStatements : Template :=
  modelImport ++ [text "import \x7b PaginatedResult, PaginationInput \x7d from './pagination.js';\n"]

lemma reads_repositoryStatements (h : isWord d.token.toList) :
    Reads specifier? (.ofContext [("domain", d.toData)]) repositoryStatements
      ["../domain/models" ++ "/" ++ d.capitalized ++ ".js", "." ++ "/" ++ "pagination" ++ ".js"] :=
  (reads_modelImport h).append rfl (.text rfl rfl rfl .nil)

lemma slicesTo_repository : SlicesTo Linkage.starts [("domain", Domain.shape true)] Template.Core.repository
    repositoryStatements := by
  unfold repositoryStatements modelImport
  apply SlicesTo.intro
  · cbv
    repeat' constructor
  · cbv

def directoryExport : List Node := [text "export * from './", field "domain" ["token"], text "/index.js';\n"]

lemma reads_directoryExport (scope : Scope) (h : isWord d.token.toList) :
    Reads specifier? (scope.bind "domain" d.toData) directoryExport
      ["." ++ "/" ++ d.token ++ "/" ++ "index" ++ ".js"] := by
  have hrender : renderNodes (scope.bind "domain" d.toData) directoryExport =
      .ok ("export * from './" ++ (d.token ++ ("/index.js';\n" ++ ""))) := by
    simp only [directoryExport, renderNodes, field]
    rfl
  exact reads_statement "export * from " _ hrender (by simp [← String.toList_inj]) (plain_of_chars rfl rfl)
    (plain_specifier (((plain_of_chars rfl rfl).append (plain_of_chars rfl rfl)).append (plain_of_isWord h))
      (by decide))

def directoryStatements : Template := [forEach "domain" (var "domains") directoryExport []]

lemma slicesTo_directories :
    SlicesTo Linkage.starts (domainsEnv true) Template.Core.useCasesIndex directoryStatements := by
  unfold directoryStatements directoryExport
  apply SlicesTo.intro
  · cbv
    repeat' constructor
  · cbv

lemma reads_directoryStatements (h : ∀ d ∈ plan.domains, isWord d.token.toList) :
    Reads specifier? (.ofContext [("domains", domainsData plan.domains)]) directoryStatements
      (plan.domains.flatMap fun d => ["." ++ "/" ++ d.token ++ "/" ++ "index" ++ ".js"]) := by
  rw [← List.append_nil (plan.domains.flatMap _)]
  exact .forEach (data_domains _) (fun d hd last => reads_directoryExport _ (h d hd)) .nil

def useCaseExport : List Node :=
  [text "export * from './", print (.filtered .capitalized (.path "route" ["operation_id"])), text ".js';\n"]

lemma reads_useCaseExport (scope : Scope) (h : isWord r.operationId.toList) :
    Reads specifier? (scope.bind "route" r.toData) useCaseExport
      ["." ++ "/" ++ r.useCaseModule ++ ".js"] := by
  have hrender : renderNodes (scope.bind "route" r.toData) useCaseExport =
      .ok ("export * from './" ++ (r.useCaseModule ++ (".js';\n" ++ ""))) := by
    simp only [useCaseExport, renderNodes]
    rfl
  exact reads_statement "export * from " _ hrender (by simp [← String.toList_inj]) (plain_of_chars rfl rfl)
    (plain_specifier (plain_of_chars rfl rfl) (isWord_capitalize h))

def useCaseExports : Template := [forEach "route" (var "routes") useCaseExport []]

lemma slicesTo_useCases :
    SlicesTo Linkage.starts (routesEnv true) Template.Core.domainUseCasesIndex useCaseExports := by
  unfold useCaseExports useCaseExport
  apply SlicesTo.intro
  · cbv
    repeat' constructor
  · cbv

lemma reads_useCaseExports (h : ∀ r ∈ plan.routesFor d, isWord r.operationId.toList) :
    Reads specifier? (.ofContext [("routes", routesData (plan.routesFor d))]) useCaseExports
      ((plan.routesFor d).flatMap fun r => ["." ++ "/" ++ r.useCaseModule ++ ".js"]) := by
  have hloop : (var "routes").data (.ofContext [("routes", routesData (plan.routesFor d))]) =
    .ok (.list ((plan.routesFor d).map Route.toData)) := rfl
  rw [← List.append_nil ((plan.routesFor d).flatMap _)]
  exact .forEach hloop (fun r hroute last => reads_useCaseExport _ (h r hroute)) .nil

def responseImport : List Node := [
  text "import \x7b ", name "N", text "Response, to", name "N",
    text "Response \x7d from '../../domain/models/", name "N", text ".js';\n"]

def repositoryImport : List Node := [
  text "import \x7b ", field "domain" ["repository_name"], text " \x7d from '../../ports/",
  field "domain" ["repository_name"], text ".js';\n"]

def entityImportEnd : List Node := [text "\x7d from '../../domain/models/", name "N", text ".js';\n"]

def useCaseScope (d : Domain) (r : Route) : Scope :=
  ("Op", .defined (.string r.useCaseModule)) :: ("N", .defined (.string d.capitalized)) ::
    Scope.ofContext (useCaseContext d r)

def named (statements : List Node) : Template :=
  assign "N" (.path "domain" ["capitalized"]) ::
    assign "Op" (.filtered .capitalized (.path "route" ["operation_id"])) ::
    statements

def useCaseStatements : RouteKind → Template
  | .list => named (responseImport ++ (repositoryImport ++
    [text "import \x7b PaginationInput \x7d from '../../ports/pagination.js';\n"]))
  | .create =>
    named (text "import \x7b ZodError \x7d from 'zod';\n" :: text "import \x7b\n" :: (entityImportEnd ++
      text "import \x7b FieldError, ValidationError \x7d from '../../domain/errors/DomainError.js';\n" ::
    (repositoryImport ++
    [text "import \x7b IDateTimeService, IIdGenerator \x7d from '../../ports/IServices.js';\n"])))
  | .get => named (responseImport ++
    text "import \x7b NotFoundError \x7d from '../../domain/errors/DomainError.js';\n" :: repositoryImport)

set_option maxRecDepth 1000 in
lemma slicesTo_useCase (kind : RouteKind) : SlicesTo Linkage.starts (useCaseEnv true) (useCaseTemplate kind)
    (useCaseStatements kind) := by
  cases kind with
  | list | create | get =>
    unfold useCaseStatements named responseImport repositoryImport entityImportEnd useCaseTemplate
    apply SlicesTo.intro
    · cbv
      repeat' constructor
    · cbv

def useCaseSpecifiers (d : Domain) : RouteKind → List String
  | .list =>
    ["../../domain/models" ++ "/" ++ d.capitalized ++ ".js",
      "../../ports" ++ "/" ++ d.repositoryName ++ ".js", "../../ports" ++ "/" ++ "pagination" ++ ".js"]
  | .create => ["zod", "../../domain/models" ++ "/" ++ d.capitalized ++ ".js",
    "../../domain/errors" ++ "/" ++ "DomainError" ++ ".js", "../../ports" ++ "/" ++ d.repositoryName ++ ".js",
    "../../ports" ++ "/" ++ "IServices" ++ ".js"]
  | .get => ["../../domain/models" ++ "/" ++ d.capitalized ++ ".js",
    "../../domain/errors" ++ "/" ++ "DomainError" ++ ".js", "../../ports" ++ "/" ++ d.repositoryName ++ ".js"]

lemma reads_responseImport (h : isWord d.token.toList) :
    Reads specifier? (useCaseScope d r) responseImport
      ["../../domain/models" ++ "/" ++ d.capitalized ++ ".js"] := by
  have hrender : renderNodes (useCaseScope d r) responseImport = .ok ("import \x7b " ++ (d.capitalized ++
      ("Response, to" ++ (d.capitalized ++ ("Response \x7d from '../../domain/models/" ++ (d.capitalized ++
        (".js';\n" ++ ""))))))) := by
    simp only [responseImport, renderNodes, name]
    rfl
  have hcap := Domain.isWord_capitalized h
  have hplain := plain_of_isWord hcap
  refine reads_statement
    ("import \x7b " ++ d.capitalized ++ "Response, to" ++ d.capitalized ++ "Response \x7d from ") _
    hrender (by simp [← String.toList_inj]) ?_ (plain_specifier (plain_of_chars rfl rfl) hcap)
  exact ((((plain_of_chars rfl rfl).append hplain).append (plain_of_chars rfl rfl)).append hplain).append
    (plain_of_chars rfl rfl)

lemma reads_repositoryImport (h : isWord d.token.toList) :
    Reads specifier? (useCaseScope d r) repositoryImport
      ["../../ports" ++ "/" ++ d.repositoryName ++ ".js"] := by
  have hrender : renderNodes (useCaseScope d r) repositoryImport = .ok ("import \x7b " ++ (d.repositoryName ++
      (" \x7d from '../../ports/" ++ (d.repositoryName ++ (".js';\n" ++ ""))))) := by
    simp only [repositoryImport, renderNodes, field]
    rfl
  have hname := Domain.isWord_repositoryName h
  exact reads_statement ("import \x7b " ++ d.repositoryName ++ " \x7d from ") _ hrender
    (by simp [← String.toList_inj])
    (((plain_of_chars rfl rfl).append (plain_of_isWord hname)).append (plain_of_chars rfl rfl))
    (plain_specifier (plain_of_chars rfl rfl) hname)

lemma reads_entityImportEnd (h : isWord d.token.toList) :
    Reads specifier? (useCaseScope d r) entityImportEnd
      ["../../domain/models" ++ "/" ++ d.capitalized ++ ".js"] := by
  have hrender : renderNodes (useCaseScope d r) entityImportEnd =
      .ok ("\x7d from '../../domain/models/" ++ (d.capitalized ++ (".js';\n" ++ ""))) := by
    simp only [entityImportEnd, renderNodes, name]
    rfl
  exact reads_statement "\x7d from " _ hrender (by simp [← String.toList_inj]) (plain_of_chars rfl rfl)
    (plain_specifier (plain_of_chars rfl rfl) (Domain.isWord_capitalized h))

lemma reads_named {read : List Char → Option String} {statements : List Node} {out : List String}
    (h : Reads read (useCaseScope d r) statements out) :
    Reads read (.ofContext (useCaseContext d r)) (named statements) out :=
  .assign (v := .defined (.string d.capitalized)) rfl (.assign rfl h)

lemma reads_useCaseStatements (h : isWord d.token.toList) (kind : RouteKind) :
    Reads specifier? (.ofContext (useCaseContext d r)) (useCaseStatements kind)
      (useCaseSpecifiers d kind) := by
  have hresponse := reads_responseImport (r := r) h
  have hrepository := reads_repositoryImport (r := r) h
  cases kind with
  | list => exact reads_named (hresponse.append rfl (hrepository.append rfl (.text rfl rfl rfl .nil)))
  | create =>
    refine reads_named (.text rfl rfl rfl (.skip rfl rfl rfl ((reads_entityImportEnd h).append rfl ?_)))
    exact .text rfl rfl rfl (hrepository.append rfl (.text rfl rfl rfl .nil))
  | get => exact reads_named (hresponse.append rfl (.text rfl rfl rfl hrepository))

def index (plan : Plan) : Draft :=
  .ofTemplate "src/index.ts" Template.Core.index [("domains", domainsData plan.domains)]

def ports (plan : Plan) : Draft :=
  .ofTemplate "src/ports/index.ts" Template.Core.portsIndex [("domains", domainsData plan.domains)]

def directories (plan : Plan) : Draft :=
  .ofTemplate "src/use-cases/index.ts" Template.Core.useCasesIndex [("domains", domainsData plan.domains)]

def directory (plan : Plan) (d : Domain) : Draft :=
  .ofTemplate (useCaseDirectory d ++ "index.ts") Template.Core.domainUseCasesIndex
    [("routes", routesData (plan.routesFor d))]

lemma model_mem (hd : d ∈ plan.domains) : model d ∈ drafts plan := by
  rw [drafts_eq]
  exact List.mem_append_left _ (List.mem_append_right _ (List.mem_map_of_mem hd))

lemma repository_mem (hd : d ∈ plan.domains) : repository d ∈ drafts plan := by
  rw [drafts_eq, following]
  exact List.mem_append_right _ (List.mem_append_left _ (List.mem_append_right _ (List.mem_map_of_mem hd)))

lemma mem_of_mem_useCases {draft : Draft} (hd : d ∈ plan.domains) (h : draft ∈ useCases plan d) :
    draft ∈ drafts plan := by
  rw [drafts_eq, following]
  exact List.mem_append_right _
    (List.mem_append_right _ (List.mem_cons_of_mem _ (List.mem_flatMap.mpr ⟨d, hd, h⟩)))

lemma directory_mem (hd : d ∈ plan.domains) : directory plan d ∈ drafts plan :=
  mem_of_mem_useCases hd List.mem_cons_self

lemma useCase_mem (hd : d ∈ plan.domains) (hr : r ∈ plan.routesFor d) : useCase d r ∈ drafts plan :=
  mem_of_mem_useCases hd (List.mem_cons_of_mem _ (List.mem_map_of_mem hr))

lemma mem_routes_of_mem_routesFor (hr : plan.routes = RouteTable.ofDomains plan.domains)
    (h : r ∈ plan.routesFor d) :
    r ∈ d.routes := by
  rw [Plan.routesFor, hr] at h
  exact (RouteTable.mem_routesFor.mp h).2

lemma fits_directory (hr : plan.routes = RouteTable.ofDomains plan.domains) (h : isWord d.token.toList) :
    Fits (.record (routesEnv true)) (.map [("routes", routesData (plan.routesFor d))]) :=
  .field (fits_list_map fun _ hroute =>
    Domain.fits_route (fun _ => h) (mem_routes_of_mem_routesFor hr hroute) (.text _)) .empty

lemma path_repository (d : Domain) : (repository d).path = "src/ports" ++ "/" ++ d.repositoryName ++ ".ts" :=
  rfl

lemma path_directory (plan : Plan) (d : Domain) :
    (directory plan d).path = "src/use-cases" ++ "/" ++ d.token ++ "/" ++ "index" ++ ".ts" := by
  simp [directory, useCaseDirectory, Draft.ofTemplate, ← String.toList_inj]

lemma path_useCase (d : Domain) (r : Route) :
    (useCase d r).path = "src/use-cases" ++ "/" ++ d.token ++ "/" ++ r.useCaseModule ++ ".ts" := rfl

variable (h : ∀ d ∈ plan.domains, isWord d.token.toList)

abbrev paths (plan : Plan) : List String := (drafts plan).map Draft.path

lemma leads_model {importer up : String} (hd : d ∈ plan.domains) (h : isWord d.token.toList)
    (hup : follow (folder importer) (Path.parts up) = some (Path.parts "src/domain/models")) :
    Leads importer (paths plan) (up ++ "/" ++ d.capitalized ++ ".js") :=
  leads_append (notMem_slash (Domain.isWord_capitalized h)) hup (List.mem_map_of_mem (model_mem hd))

lemma leads_repository {importer up : String} (hd : d ∈ plan.domains) (h : isWord d.token.toList)
    (hup : follow (folder importer) (Path.parts up) = some (Path.parts "src/ports")) :
    Leads importer (paths plan) (up ++ "/" ++ d.repositoryName ++ ".js") :=
  leads_append (notMem_slash (Domain.isWord_repositoryName h)) hup (List.mem_map_of_mem (repository_mem hd))

lemma destination_directory (plan : Plan) (hname : Path.IsName d.token) :
    destination "src/use-cases/index.ts" ("." ++ "/" ++ d.token ++ "/" ++ "index" ++ ".js") =
      some (directory plan d).path := by
  have hfolder : folder "src/use-cases/index.ts" = Path.parts "src/use-cases" := by decide
  rw [path_directory]
  refine destination_append (by decide) ?_
  rw [hfolder, Path.parts_append, Path.parts_append, follow_append, Path.parts_of_notMem hname.2.2.2]
  exact follow_name hname

lemma destination_useCase (plan : Plan) (hr : '/' ∉ r.useCaseModule.toList) :
    destination (directory plan d).path ("." ++ "/" ++ r.useCaseModule ++ ".js") =
      some (useCase d r).path := by
  rw [path_directory, path_useCase]
  refine destination_append hr ?_
  rw [folder_source _ (by decide)]
  rfl

lemma follow_useCase {up place : String} (steps : List String) (hname : Path.IsName d.token)
    (hr : '/' ∉ r.useCaseModule.toList) (hup : Path.parts up = ".." :: steps)
    (h : follow (Path.parts "src/use-cases") steps = some (Path.parts place)) :
    follow (folder (useCase d r).path) (Path.parts up) = some (Path.parts place) := by
  rw [path_useCase, folder_source _ hr, Path.parts_append, Path.parts_of_notMem hname.2.2.2, hup]
  exact follow_up h d.token

lemma fixed_mem (plan : Plan) :
    ∀ path ∈ ["src/domain/errors/DomainError.ts", "src/ports/index.ts", "src/ports/pagination.ts",
    "src/ports/IServices.ts", "src/use-cases/index.ts"], path ∈ paths plan := by
  simp only [List.forall_mem_cons]
  simp [paths, drafts, Draft.ofTemplate]

section

include h

lemma linked_index : (index plan).Linked (paths plan) := by
  refine Draft.linked_ofTemplate (rendered_drafts plan _ (by simp [drafts]))
    (fits_domains true fun d hd _ => h d hd) (by decide) slicesTo_indexStatements (reads_indexStatements h) ?_
  simp only [List.forall_mem_append, List.forall_mem_flatMap, List.forall_mem_cons]
  refine ⟨fun d hd => ⟨leads_model hd (h d hd) (by decide), List.forall_mem_nil _⟩,
    leads_of_destination (by decide) (fixed_mem plan _ (.head _)),
    leads_of_destination (by decide) (fixed_mem plan _ (.tail _ (.head _))),
    leads_of_destination (by decide) (fixed_mem plan "src/use-cases/index.ts" (by simp)),
    List.forall_mem_nil _⟩

lemma linked_ports : (ports plan).Linked (paths plan) := by
  refine Draft.linked_ofTemplate (rendered_drafts plan _ (by simp [drafts]))
    (fits_domains true fun d hd _ => h d hd) (by decide) slicesTo_ports
      (.text rfl rfl rfl (.text rfl rfl rfl (.forEach (data_domains _) (fun d hd last =>
      reads_repositoryExport _ (h d hd)) .nil))) ?_
  simp only [List.forall_mem_append, List.forall_mem_flatMap, List.forall_mem_cons]
  exact ⟨leads_of_destination (by decide) (fixed_mem plan "src/ports/pagination.ts" (by simp)),
    leads_of_destination (by decide) (fixed_mem plan "src/ports/IServices.ts" (by simp)),
    fun d hd => ⟨leads_repository hd (h d hd) (by decide), List.forall_mem_nil _⟩, List.forall_mem_nil _⟩

lemma linked_directories (hnames : ∀ d ∈ plan.domains, Path.IsName d.token) :
    (directories plan).Linked (paths plan) := by
  refine Draft.linked_ofTemplate (rendered_drafts plan _ (by simp [drafts]))
    (fits_domains true fun d hd _ => h d hd) (by decide) slicesTo_directories (reads_directoryStatements h) ?_
  simp only [List.forall_mem_flatMap, List.forall_mem_singleton]
  exact fun d hd => leads_of_destination (destination_directory plan (hnames d hd))
    (List.mem_map_of_mem (directory_mem hd))

lemma linked_model (hd : d ∈ plan.domains) : (model d).Linked (paths plan) := by
  refine Draft.linked_ofTemplate (rendered_drafts plan _ (model_mem hd))
    (fits_model true fun _ => h d hd) (by decide)
    slicesTo_model (.text rfl rfl rfl .nil) ?_
  simp only [List.forall_mem_singleton]
  exact leads_of_not (by decide)

lemma linked_repository (hd : d ∈ plan.domains) : (repository d).Linked (paths plan) := by
  have hname := notMem_slash (Domain.isWord_repositoryName (h d hd))
  have hfolder : folder (repository d).path = Path.parts "src/ports" := by
    rw [path_repository, folder_source _ hname]
  refine Draft.linked_ofTemplate (rendered_drafts plan _ (repository_mem hd))
    (.field (Domain.fits_toData fun _ => h d hd) .empty) (by decide) slicesTo_repository
    (reads_repositoryStatements (h d hd)) ?_
  have hmodels : follow (folder (repository d).path) (Path.parts "../domain/models") =
      some (Path.parts "src/domain/models") := by
    rw [hfolder]
    decide
  have hports : follow (folder (repository d).path) (Path.parts ".") = some (Path.parts "src/ports") := by
    rw [hfolder]
    decide
  have hpagination : Leads (repository d).path (paths plan) ("." ++ "/" ++ "pagination" ++ ".js") :=
    leads_append (by decide) hports (fixed_mem plan "src/ports/pagination.ts" (by simp))
  simp only [List.forall_mem_cons]
  exact ⟨leads_model hd (h d hd) hmodels, hpagination, List.forall_mem_nil _⟩

variable (hr : plan.routes = RouteTable.ofDomains plan.domains) (hd : d ∈ plan.domains)
    (hname : Path.IsName d.token)

include hr hd

lemma linked_directory : (directory plan d).Linked (paths plan) := by
  have hop : ∀ r ∈ plan.routesFor d, isWord r.operationId.toList := fun r hroute =>
    Domain.isWord_operationId (h d hd) (mem_routes_of_mem_routesFor hr hroute)
  refine Draft.linked_ofTemplate (rendered_drafts plan _ (directory_mem hd))
    (fits_directory hr (h d hd)) (by decide)
    slicesTo_useCases (reads_useCaseExports hop) ?_
  simp only [List.forall_mem_flatMap, List.forall_mem_singleton]
  intro r hroute
  exact leads_of_destination (destination_useCase plan (notMem_slash (isWord_capitalize (hop r hroute))))
    (List.mem_map_of_mem (useCase_mem hd hroute))

include hname in
lemma linked_useCase (hroute : r ∈ plan.routesFor d) : (useCase d r).Linked (paths plan) := by
  have hmem := mem_routes_of_mem_routesFor hr hroute
  have hmodule : '/' ∉ r.useCaseModule.toList :=
    notMem_slash (isWord_capitalize (Domain.isWord_operationId (h d hd) hmem))
  have hmodel : Leads (useCase d r).path (paths plan)
      ("../../domain/models" ++ "/" ++ d.capitalized ++ ".js") :=
    leads_model hd (h d hd) (follow_useCase ["..", "domain", "models"] hname hmodule (by decide) (by decide))
  have hrepository : Leads (useCase d r).path (paths plan)
      ("../../ports" ++ "/" ++ d.repositoryName ++ ".js") :=
    leads_repository hd (h d hd) (follow_useCase ["..", "ports"] hname hmodule (by decide) (by decide))
  refine Draft.linked_ofTemplate (rendered_drafts plan _ (useCase_mem hd hroute))
    (fits_useCase true (fun _ => h d hd) (Domain.fits_route (fun _ => h d hd) hmem (.text _))) (by decide)
    (slicesTo_useCase r.kind) (reads_useCaseStatements (h d hd) r.kind) ?_
  have hports : follow (folder (useCase d r).path) (Path.parts "../../ports") =
      some (Path.parts "src/ports") :=
    follow_useCase ["..", "ports"] hname hmodule (by decide) (by decide)
  have herror : follow (folder (useCase d r).path) (Path.parts "../../domain/errors") =
      some (Path.parts "src/domain/errors") :=
    follow_useCase ["..", "domain", "errors"] hname hmodule (by decide) (by decide)
  have herrors : Leads (useCase d r).path (paths plan)
      ("../../domain/errors" ++ "/" ++ "DomainError" ++ ".js") :=
    leads_append (by decide) herror (fixed_mem plan "src/domain/errors/DomainError.ts" (by simp))
  cases hkind : r.kind with
  | list =>
    simp only [useCaseSpecifiers, List.forall_mem_cons]
    exact ⟨hmodel, hrepository,
      leads_append (by decide) hports (fixed_mem plan "src/ports/pagination.ts" (by simp)),
      List.forall_mem_nil _⟩
  | create =>
    simp only [useCaseSpecifiers, List.forall_mem_cons]
    exact ⟨leads_of_not (by decide), hmodel, herrors, hrepository,
      leads_append (by decide) hports (fixed_mem plan "src/ports/IServices.ts" (by simp)),
      List.forall_mem_nil _⟩
  | get =>
    simp only [useCaseSpecifiers, List.forall_mem_cons]
    exact ⟨hmodel, herrors, hrepository, List.forall_mem_nil _⟩

end

lemma linked_silent {env : Env} {context : List (String × Data)} {template : Template} {path : String}
    (hmem : Draft.ofTemplate path template context ∈ drafts plan) (hfits : Fits (.record env) (.map context))
    (hself : env.all (·.1 ≠ "self")) (h : SlicesTo Linkage.starts env template []) :
    (Draft.ofTemplate path template context).Linked (paths plan) :=
  Draft.linked_ofTemplate (rendered_drafts plan _ hmem) hfits hself h .nil (List.forall_mem_nil _)

lemma linked_drafts (hr : plan.routes = RouteTable.ofDomains plan.domains)
    (h : ∀ d ∈ plan.domains, isWord d.token.toList) (hnames : ∀ d ∈ plan.domains, Path.IsName d.token) :
    ∀ draft ∈ drafts plan, draft.Linked (paths plan) := by
  have huse : ∀ d ∈ plan.domains, ∀ draft ∈ useCases plan d, draft.Linked (paths plan) := by
    rintro d hd draft (_ | ⟨_, hdraft⟩)
    · exact linked_directory h hr hd
    · obtain ⟨r, hroute, rfl⟩ := List.mem_map.mp hdraft
      exact linked_useCase h hr hd (hnames d hd) hroute
  have hmem : ∀ draft ∈ following plan, draft ∈ drafts plan := fun draft hdraft => by
    rw [drafts_eq]
    exact List.mem_append_right _ hdraft
  simp only [drafts_eq, leading, following, List.forall_mem_append, List.forall_mem_cons, List.forall_mem_map,
    List.forall_mem_flatMap]
  refine ⟨⟨⟨Draft.linked_of_not rfl, Draft.linked_of_not rfl, linked_index h, List.forall_mem_nil _⟩,
    fun d hd => linked_model h hd⟩,
      ⟨⟨?_, linked_ports h, ?_, ?_, List.forall_mem_nil _⟩, fun d hd => linked_repository h hd⟩,
    linked_directories h hnames, huse⟩
  · exact linked_silent (hmem _ (by simp [following])) fits_errors (by decide) slicesTo_domainError
  · exact linked_silent (hmem _ (by simp [following])) .empty (by decide) slicesTo_pagination
  · exact linked_silent (hmem _ (by simp [following])) .empty (by decide) slicesTo_services

end CorePackage

end ApiScaffold
