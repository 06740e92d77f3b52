import ApiScaffold.Package.Contracts
import ApiScaffold.Proofs.Api.Document

namespace ApiScaffold

namespace Data

mutual

def valuesAt (key : String) : Data → List Data
  | list items => valuesAtItems key items
  | map entries => valuesAtEntries key entries
  | _ => []

def valuesAtItems (key : String) : List Data → List Data
  | [] => []
  | item :: rest => valuesAt key item ++ valuesAtItems key rest

def valuesAtEntries (key : String) : List (String × Data) → List Data
  | [] => []
  | (k, value) :: rest => (if k = key then [value] else []) ++ valuesAt key value ++ valuesAtEntries key rest

end

variable {key : String}

lemma valuesAt_list (items : List Data) : (list items).valuesAt key = items.flatMap (valuesAt key) := by
  rw [valuesAt]
  induction items with
  | nil => rfl
  | cons item rest ih => rw [valuesAtItems, ih, List.flatMap_cons]

lemma valuesAt_map (entries : List (String × Data)) : (map entries).valuesAt key =
    entries.flatMap fun e => (if e.1 = key then [e.2] else []) ++ e.2.valuesAt key := by
  rw [valuesAt]
  induction entries with
  | nil => rfl
  | cons entry rest ih => rw [valuesAtEntries, ih, List.flatMap_cons]

lemma valuesAt_map_of_ne {entries : List (String × Data)} (h : ∀ e ∈ entries, e.1 ≠ key) :
    (map entries).valuesAt key = entries.flatMap fun e => e.2.valuesAt key := by
  rw [valuesAt_map]
  exact List.flatMap_congr fun e he => by rw [if_neg (h e he), List.nil_append]

end Data

namespace OpenApi

def references (document : Data) : List Data := document.valuesAt "$ref"

def schemaNames (document : Data) : List String :=
  match (document.get? "components").bind (·.get? "schemas") with
  | some (.map schemas) => schemas.map Prod.fst
  | _ => []

def pointer (name : String) : Data := .string ("#/components/schemas/" ++ name)

def Resolves (document reference : Data) : Prop := ∃ name ∈ schemaNames document, reference = pointer name

variable {d : Domain} {ds rs : List Domain} {r : Route} {version cap : String}

def schemasOf (r : Route) : List String :=
  match r.kind with
  | .list | .get => [r.domain.responseName]
  | .create => [r.domain.createRequestName, r.domain.responseName]

lemma references_operation (r : Route) : (operation r).valuesAt "$ref" = (schemasOf r).map pointer := by
  have hparameter (name : String) : (pathParameter name).valuesAt "$ref" = [] := rfl
  unfold operation schemasOf
  cases r.kind with
  | list | create => rfl
  | get =>
    have hparameters : (Data.list (r.pathParams.map pathParameter)).valuesAt "$ref" = [] := by
      rw [Data.valuesAt_list, List.flatMap_map, List.flatMap_eq_nil_iff]
      exact fun name _ => hparameter name
    rw [Data.valuesAt_map]
    simp only [List.flatMap_cons, hparameters]
    rfl

lemma valuesAt_paths (ds : List Domain) :
    (Data.map ((paths (RouteTable.ofDomains ds)).map fun (path, item) => (path, .map item))).valuesAt "$ref" =
      (listing (paths (RouteTable.ofDomains ds))).flatMap fun entry => entry.2.2.valuesAt "$ref" := by
  have hpath : ∀ entry ∈ paths (RouteTable.ofDomains ds), entry.1 ≠ "$ref" ∧
      ∀ op ∈ entry.2, op.1 ≠ "$ref" := by
    rw [paths_ofDomains]
    intro entry hentry
    obtain ⟨group, hgroup, rfl⟩ := List.mem_map.mp hentry
    obtain ⟨d, -, hgroup⟩ := List.mem_flatMap.mp hgroup
    constructor
    · rw [grouped, List.mem_cons, List.mem_singleton] at hgroup
      rcases hgroup with rfl | rfl
      · simp [pathItem, Domain.collectionPath_eq, ← String.toList_inj]
      · simp [pathItem, Domain.itemPath_eq, ← String.toList_inj]
    · intro op hop
      obtain ⟨r, -, rfl⟩ := List.mem_map.mp hop
      have hkey : r.method.key ≠ "$ref" := by cases r.method <;> decide
      exact hkey
  rw [Data.valuesAt_map_of_ne (List.forall_mem_map.mpr fun entry h => (hpath entry h).1),
    List.flatMap_map, listing, List.flatMap_assoc]
  refine List.flatMap_congr fun entry h => ?_
  rw [Data.valuesAt_map_of_ne (hpath entry h).2, List.flatMap_map]

lemma references_paths (ds : List Domain) :
    (Data.map ((paths (RouteTable.ofDomains ds)).map fun (path, item) => (path, .map item))).valuesAt "$ref" =
      (RouteTable.ofDomains ds.eraseDups).flatMap fun r => (schemasOf r).map pointer := by
  rw [valuesAt_paths, listing_paths, List.flatMap_map]
  exact List.flatMap_congr fun r _ => references_operation r

def names (cap : String) : List String := ["Create" ++ cap ++ "Request", cap ++ "Response"]

def schemas (cap : String) : List (String × Data) :=
  [("Create" ++ cap ++ "Request", Schema.createRequest), (cap ++ "Response", Schema.response)]

lemma request_ne_response (cap other : String) : "Create" ++ cap ++ "Request" ≠ other ++ "Response" := by
  intro heq
  have hlast := congrArg (fun s : String => s.toList.reverse.head?) heq
  simp at hlast

lemma request_mem_names {caps : List String} : "Create" ++ cap ++ "Request" ∈ caps.flatMap names ↔
    cap ∈ caps := by
  simp [names, request_ne_response]

lemma response_mem_names {caps : List String} : cap ++ "Response" ∈ caps.flatMap names ↔ cap ∈ caps := by
  simp [names, (request_ne_response _ _).symm]

lemma keys_schemas (caps : List String) : (caps.flatMap schemas).map Prod.fst = caps.flatMap names := by
  rw [List.map_flatMap]
  rfl

lemma nodup_names {caps : List String} (h : caps.Nodup) : (caps.flatMap names).Nodup := by
  rw [List.nodup_flatMap]
  refine ⟨fun cap _ => by simp [names, request_ne_response], h.imp fun {cap other} hne => ?_⟩
  simp [Function.onFun, names, request_ne_response, (request_ne_response _ _).symm, hne.symm]

lemma foldl_schemas {caps : List String} (hn : caps.Nodup) (cap : String) :
    (schemas cap).foldl (fun acc entry => Assoc.insert entry.1 entry.2 acc) (caps.flatMap schemas) =
      (addNew caps cap).flatMap schemas := by
  unfold addNew
  split
  · rename_i hcap
    have hget {entry : String × Data} (hentry : entry ∈ schemas cap) :
        Assoc.insert entry.1 entry.2 (caps.flatMap schemas) = caps.flatMap schemas := by
      refine Assoc.insert_of_get? (Assoc.get?_of_mem ?_ (List.mem_flatMap.mpr ⟨cap, hcap, hentry⟩))
      rw [keys_schemas]
      exact nodup_names hn
    simp only [schemas, List.foldl_cons, List.foldl_nil]
    rw [hget List.mem_cons_self, hget (List.mem_cons_of_mem _ List.mem_cons_self)]
  · rename_i hcap
    rw [List.flatMap_append, List.flatMap_singleton]
    refine Assoc.foldl_insert _ ?_
    have hkeys : (caps.flatMap schemas ++ schemas cap).map Prod.fst = (caps ++ [cap]).flatMap names := by
      rw [List.map_append, keys_schemas, List.flatMap_append]
      rfl
    rw [hkeys]
    exact nodup_names (by simpa using hn.concat hcap)

lemma components_eq (ds : List Domain) :
    Schema.components ds = (ds.map Domain.capitalized).eraseDups.flatMap schemas := by
  have hcaps :
      (ds.flatMap fun d => [(d.createRequestName, Schema.createRequest), (d.responseName, Schema.response)]) =
      (ds.map Domain.capitalized).flatMap schemas := by
    rw [List.flatMap_map]
    rfl
  rw [Schema.components, hcaps]
  exact foldl_groups (fun caps => caps.flatMap schemas) (fun caps cap hn => foldl_schemas hn cap) _

lemma schemaNames_document (version : String) (ds : List Domain) (routes : List Route) :
    schemaNames (document version ds routes) = (ds.map Domain.capitalized).eraseDups.flatMap names := by
  rw [← keys_schemas, ← components_eq]
  rfl

lemma ne_of_mem_schemas (caps : List String) : ∀ entry ∈ caps.flatMap schemas, entry.1 ≠ "$ref" := by
  rintro entry hentry heq
  have hname := List.mem_map_of_mem (f := Prod.fst) hentry
  rw [keys_schemas, heq, List.mem_flatMap] at hname
  obtain ⟨cap, -, hname⟩ := hname
  have hlast : ∀ name ∈ names cap, name.toList.getLast? ≠ some 'f' := by
    simp [names, List.getLast?_cons]
  exact hlast _ hname (by decide)

lemma references_document (version : String) (ds rs : List Domain) :
    references (document version ds (RouteTable.ofDomains rs)) =
      (RouteTable.ofDomains rs.eraseDups).flatMap fun r => (schemasOf r).map pointer := by
  have hschemas : (Data.map (Schema.components ds)).valuesAt "$ref" = [] := by
    rw [components_eq, Data.valuesAt_map_of_ne (ne_of_mem_schemas _), List.flatMap_assoc,
      List.flatMap_eq_nil_iff]
    exact fun cap _ => rfl
  have hcomponents :
      (Data.map [("schemas", .map (Schema.components ds)), ("securitySchemes", .map [("BearerAuth", .map [
      ("type", .string "http"), ("scheme", .string "bearer"), ("bearerFormat", .string "JWT")])])]).valuesAt
        "$ref" = [] := by
    rw [Data.valuesAt_map]
    simp only [List.flatMap_cons, hschemas]
    rfl
  rw [references, document, Data.valuesAt_map]
  simp only [List.flatMap_cons, references_paths, hcomponents]
  exact List.append_nil _

lemma mem_references {version : String} {reference : Data} :
    reference ∈ references (document version ds (RouteTable.ofDomains rs)) ↔
      ∃ d ∈ rs, reference = pointer d.createRequestName ∨ reference = pointer d.responseName := by
  have hroutes (d : Domain) : (d.routes.flatMap fun r => (schemasOf r).map pointer) = [pointer d.responseName,
      pointer d.createRequestName, pointer d.responseName, pointer d.responseName] := rfl
  rw [references_document, RouteTable.ofDomains, List.flatMap_assoc, List.mem_flatMap]
  simp only [hroutes, List.mem_eraseDups, List.mem_cons, List.not_mem_nil, or_false]
  refine exists_congr fun d => and_congr_right fun _ => ?_
  tauto

lemma pointer_inj {name other : String} : pointer name = pointer other ↔ name = other := by
  simp [pointer]

lemma resolves_pointer {document : Data} {name : String} :
    Resolves document (pointer name) ↔ name ∈ schemaNames document := by
  simp [Resolves, pointer_inj]

lemma resolve_iff (version : String) (ds rs : List Domain) :
    (∀ reference ∈ references (document version ds (RouteTable.ofDomains rs)),
      Resolves (document version ds (RouteTable.ofDomains rs)) reference) ↔
      ∀ d ∈ rs, ∃ e ∈ ds, e.capitalized = d.capitalized := by
  have hmem (d : Domain) : d.capitalized ∈ (ds.map Domain.capitalized).eraseDups ↔
      ∃ e ∈ ds, e.capitalized = d.capitalized := by
    rw [List.mem_eraseDups, List.mem_map]
  constructor
  · intro h d hd
    have hresponse := h _ (mem_references.mpr ⟨d, hd, .inr rfl⟩)
    rw [resolves_pointer, schemaNames_document, Domain.responseName_eq, response_mem_names] at hresponse
    exact (hmem d).mp hresponse
  · intro h reference hreference
    obtain ⟨d, hd, rfl | rfl⟩ := mem_references.mp hreference
    · rw [resolves_pointer, schemaNames_document, Domain.createRequestName_eq, request_mem_names]
      exact (hmem d).mpr (h d hd)
    · rw [resolves_pointer, schemaNames_document, Domain.responseName_eq, response_mem_names]
      exact (hmem d).mpr (h d hd)

lemma length_names (caps : List String) : (caps.flatMap names).length = 2 * caps.length := by
  induction caps with
  | nil => rfl
  | cons cap rest ih =>
    rw [List.flatMap_cons, List.length_append, ih, List.length_cons]
    simp only [names, List.length_cons, List.length_nil]
    omega

/--
References resolve exactly if the routed tokens are capitalized as described ones are. Those of a
plan do, and its schemas are two for each capitalized form.
-/
theorem references_resolve_iff (config : Config) (domains routed : List String) :
    let document :=
      document config.version (domains.map Domain.mk) (RouteTable.ofDomains (routed.map Domain.mk))
    let plan := ContractsPackage.document (Plan.ofConfig config)
    let capitalized := (config.domains.map Text.capitalize).eraseDups
    ((∀ reference ∈ references document, Resolves document reference) ↔
      ∀ token ∈ routed, ∃ other ∈ domains, Text.capitalize other = Text.capitalize token) ∧
    (∀ reference ∈ references plan, Resolves plan reference) ∧
    schemaNames plan = capitalized.flatMap names ∧ (schemaNames plan).Nodup ∧
    (schemaNames plan).length = 2 * capitalized.length := by
  intro document plan capitalized
  have hnames : schemaNames plan = capitalized.flatMap names := by
    have hcapitalized : (config.domains.map Domain.mk).map Domain.capitalized =
        config.domains.map Text.capitalize :=
      List.map_map
    exact (schemaNames_document _ _ _).trans (congrArg (List.flatMap names ·.eraseDups) hcapitalized)
  refine ⟨?_, (resolve_iff _ _ _).mpr fun d hd => ⟨d, hd, rfl⟩, hnames, ?_, ?_⟩
  · rw [resolve_iff]
    simp [Domain.capitalized]
  · rw [hnames]
    exact nodup_names (nodup_eraseDups _)
  · rw [hnames, length_names]

end OpenApi

end ApiScaffold
