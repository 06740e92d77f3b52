import ApiScaffold.Proofs.Api.Reference
import ApiScaffold.Proofs.Package.Contracts
import ApiScaffold.Proofs.Yaml.Node

namespace ApiScaffold

open Yaml

namespace Yaml

variable {s t : String} {items : List Data} {entries : List (String × Data)}

@[simp] lemma printable_append : Printable (s ++ t) ↔ Printable s ∧ Printable t := by
  simp [Printable, or_imp, forall_and]

@[simp] lemma legible_string : Legible (.string s) ↔ Printable s :=
  ⟨fun h => by cases h; assumption, .string⟩

@[simp] lemma legible_list : Legible (.list items) ↔ ∀ value ∈ items, Legible value :=
  ⟨fun h => by cases h; assumption, .list⟩

@[simp] lemma legible_map : Legible (.map entries) ↔
    ∀ entry ∈ entries, Printable entry.1 ∧ Legible entry.2 := by
  constructor
  · rintro (_ | _ | _ | _ | _ | ⟨hkeys, hvalues⟩) entry hentry
    exact ⟨hkeys entry hentry, hvalues entry hentry⟩
  · intro h
    exact .map (fun entry hentry => (h entry hentry).1) fun entry hentry => (h entry hentry).2

attribute [simp] Legible.null Legible.bool Legible.int

lemma toNat_lt_of_isPrintable {c : Char} (h : isPrintable c) : c.toNat < 127 := by
  simp only [isPrintable, Bool.and_eq_true, decide_eq_true_eq] at h
  have hhigh : c.toNat ≤ '~'.toNat := h.2
  exact Nat.lt_succ_of_le hhigh

lemma isPrintable_upper {c : Char} (h : isPrintable c) : (Text.upper c).all isPrintable :=
  Text.forall_of_toNat_lt (q := fun c => (Text.upper c).all isPrintable) (fun _ => toNat_lt_of_isPrintable)
    (by decide +kernel) h

lemma printable_capitalize (h : Printable s) : Printable (Text.capitalize s) :=
  List.all_eq_true.mp (Text.all_capitalize (fun _ => isPrintable_upper) (List.all_eq_true.mpr h))

end Yaml

namespace OpenApi

variable {d : Domain} {ds : List Domain} {r : Route} {name version : String}

lemma legible_ref : Legible (Schema.ref name) ↔ Printable name := by
  simp +decide [Schema.ref]

lemma legible_success {status description : String} {schema : Data} (hstatus : Printable status)
    (hdescription : Printable description) (hschema : Legible schema) :
    Legible (success status description schema) := by
  simp +decide [success, jsonContent, hstatus, hdescription, hschema]

lemma legible_pathParameter (h : Printable name) : Legible (pathParameter name) := by
  simp +decide [pathParameter, h]

lemma printable_responseName (h : Printable d.token) : Printable d.responseName :=
  printable_append.mpr ⟨printable_capitalize h, by decide⟩

lemma printable_createRequestName (h : Printable d.token) : Printable d.createRequestName :=
  printable_append.mpr ⟨printable_append.mpr ⟨by decide, printable_capitalize h⟩, by decide⟩

lemma printable_pathParams (h : Printable r.path) : ∀ name ∈ r.pathParams, Printable name := by
  intro name hname c hc
  obtain ⟨piece, hpiece, heq⟩ := List.mem_filterMap.mp hname
  cases piece with
  | literal => cases heq
  | param s =>
    obtain rfl := Option.some.inj heq
    rw [String.toList_ofList] at hc
    exact h c (PathTemplate.mem_of_mem_pieces hpiece hc)

lemma legible_operation (hdomain : r.domain = d.descriptor) (hd : Printable d.token)
    (hid : Printable r.operationId) (hpath : Printable r.path) : Legible (operation r) := by
  have hresponse := legible_ref.mpr (printable_responseName hd)
  have hrequest := legible_ref.mpr (printable_createRequestName hd)
  have hcreated := legible_success (by decide : Printable "201") (by decide : Printable "Created") hresponse
  have hread := legible_success (by decide : Printable "200") (by decide : Printable "Success") hresponse
  simp only [operation, hdomain]
  cases r.kind with
  | list =>
    have hschema : Legible (Schema.listResponse d) := by simp +decide [Schema.listResponse, hresponse]
    have hlist := legible_success (by decide : Printable "200") (by decide : Printable "Success") hschema
    simp +decide [hid, hd, hlist, Domain.routeSegment]
  | create => simp +decide [hid, hd, hcreated, hrequest, jsonContent]
  | get =>
    have hparams : ∀ name ∈ r.pathParams, Legible (pathParameter name) := fun name hname =>
      legible_pathParameter (printable_pathParams hpath name hname)
    simp +decide [hid, hd, hread]
    exact hparams

lemma printable_routes (h : Printable d.token) :
    ∀ r ∈ d.routes, Printable r.operationId ∧ Printable r.path := by
  have hcap := printable_capitalize h
  simp +decide [Domain.routes, Domain.listRoute, Domain.createRoute, Domain.getRoute, h,
    Domain.collectionPath_eq,
    Domain.itemPath_eq, Domain.pluralCapitalized_eq, Domain.capitalized, hcap, Domain.routeSegment,
    Domain.pathParam]

lemma legible_paths (hds : ∀ d ∈ ds, Printable d.token) :
    Legible (.map ((paths (RouteTable.ofDomains ds)).map fun (path, item) => (path, .map item))) := by
  have hgroup {d : Domain} (hd : Printable d.token) : ∀ group ∈ grouped d, Printable group.1 := by
    intro group hgroup
    rw [grouped, List.mem_cons, List.mem_singleton] at hgroup
    rcases hgroup with rfl | rfl
    · exact (printable_routes hd d.listRoute d.listRoute_mem).2
    · exact (printable_routes hd d.getRoute d.getRoute_mem).2
  rw [paths_ofDomains, items, List.map_map, legible_map, List.forall_mem_map]
  intro group hmem
  obtain ⟨d, hd, hmem⟩ := List.mem_flatMap.mp hmem
  have htoken := hds d (List.mem_eraseDups.mp hd)
  refine ⟨hgroup htoken group hmem, legible_map.mpr (List.forall_mem_map.mpr fun r hr => ?_)⟩
  have hroute : r ∈ d.routes := flatMap_grouped d ▸ List.mem_flatMap.mpr ⟨group, hmem, hr⟩
  obtain ⟨hid, hpath⟩ := printable_routes htoken r hroute
  have hmethod : Printable r.method.key := by cases r.method <;> decide
  exact ⟨hmethod, legible_operation (Domain.domain_of_mem_routes hroute) htoken hid hpath⟩

lemma legible_components (hds : ∀ d ∈ ds, Printable d.token) : Legible (.map (Schema.components ds)) := by
  have hrequest : Legible Schema.createRequest := by
    simp +decide [Schema.createRequest, Field.names, Field.properties, Field.creation,
      Field.property, Data.strings]
  have hresponse : Legible Schema.response := by
    simp +decide [Schema.response, Field.properties, Field.entity, Field.property, Field.format?]
  rw [components_eq, legible_map]
  intro entry hentry
  obtain ⟨cap, hcap, hentry⟩ := List.mem_flatMap.mp hentry
  obtain ⟨d, hd, rfl⟩ := List.mem_map.mp (List.mem_eraseDups.mp hcap)
  have hprintable := printable_capitalize (hds d hd)
  rw [schemas, List.mem_cons, List.mem_singleton] at hentry
  rcases hentry with rfl | rfl
  · exact ⟨printable_createRequestName (hds d hd), hrequest⟩
  · exact ⟨printable_responseName (hds d hd), hresponse⟩

lemma legible_document (hversion : Printable version) (hds : ∀ d ∈ ds, Printable d.token) :
    Legible (document version ds (RouteTable.ofDomains ds)) := by
  simp +decide [document, hversion, legible_paths hds, legible_components hds]

end OpenApi

namespace ContractsPackage

variable {config other : Config} {s t : ArtifactSet}

lemma legible_document (hversion : Printable config.version)
    (hdomains : ∀ token ∈ config.domains, Printable token) :
    Legible (document (Plan.ofConfig config)) :=
  OpenApi.legible_document hversion (List.forall_mem_map.mpr hdomains)

lemma get_openApi (h : generate (Plan.ofConfig config) = .ok s) :
    s.get "openapi/openapi.yaml" = .ok (dump (document (Plan.ofConfig config))) := by
  obtain ⟨-, hn, rfl⟩ := ArtifactSet.eq_of_ofDrafts_eq_ok h
  have hmem : Draft.text "openapi/openapi.yaml" (dump (document (Plan.ofConfig config))) ∈
      drafts (Plan.ofConfig config) := by
    simp [drafts]
  exact ArtifactSet.get_ofDrafts hn hmem _

/--
Printed data tell what they are, to the order of their keys. So the OpenAPI file of a contracts
package tells the document that it was written from.
-/
theorem texts_determine_data :
    (∀ a b : Data, Legible a → Legible b → dump a = dump b → a = b) ∧
    ∀ (config other : Config) (s t : ArtifactSet),
      Printable config.version → (∀ token ∈ config.domains, Printable token) →
      Printable other.version → (∀ token ∈ other.domains, Printable token) →
      generate (Plan.ofConfig config) = .ok s → generate (Plan.ofConfig other) = .ok t →
      s.get "openapi/openapi.yaml" = t.get "openapi/openapi.yaml" →
      document (Plan.ofConfig config) = document (Plan.ofConfig other) := by
  refine ⟨fun a b ha hb => ha.eq_of_dump hb,
    fun config other s t hversion hdomains hversion' hdomains' hs ht h => ?_⟩
  rw [get_openApi hs, get_openApi ht] at h
  exact (legible_document hversion hdomains).eq_of_dump (legible_document hversion' hdomains')
    (Except.ok.inj h)

theorem texts_determine_data_users :
    dump .null ≠ dump (.string "null") ∧
    ∃ s t, generate (Plan.ofConfig { domains := ["user"] }) = .ok s ∧
    generate (Plan.ofConfig { domains := [] }) = .ok t ∧
      s.get "openapi/openapi.yaml" ≠ t.get "openapi/openapi.yaml" := by
  refine ⟨fun h => ?_, _, _, generate_eq_ok (by decide), generate_eq_ok (by decide), fun h => ?_⟩
  · exact absurd (texts_determine_data.1 .null (.string "null") .null (.string (by decide)) h) nofun
  · have hdocument :=
      texts_determine_data.2 { domains := ["user"] } { domains := [] } _ _ (by decide) (by decide) (by decide)
      (by decide) (generate_eq_ok (by decide)) (generate_eq_ok (by decide)) h
    have hnames := congrArg OpenApi.schemaNames hdocument
    revert hnames
    decide

end ContractsPackage

end ApiScaffold
