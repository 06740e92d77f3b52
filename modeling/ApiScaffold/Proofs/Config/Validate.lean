import ApiScaffold.Config.Validate
import ApiScaffold.Proofs.Except

namespace ApiScaffold

def Data.isString : Data → Bool
  | string _ => true
  | _ => false

namespace Config

open Chain

variable {entries block : List (String × Data)}

abbrev Entries := List (String × Data)

def strayPlaces (start : Nat) (items : List Data) : List Nat :=
  ((items.zipIdx start).filter fun (item, _) => !item.isString).map Prod.snd

def listViolations (field : String) : Data → List Violation
  | .list items => (strayPlaces 0 items).map fun place => ⟨.string, field, some place⟩
  | _ => [⟨.list, field, none⟩]

def violationUnless (accepted : Data → Bool) (violation : Violation) (v : Data) : List Violation :=
  if accepted v then [] else [violation]

def isFormat : Data → Bool
  | .string s => s == "openapi" || s == "graphql"
  | _ => false

def contractsViolations (block : Entries) : List Violation :=
  (Assoc.get? "format" block).toList.flatMap (violationUnless isFormat ⟨.format, "format", none⟩) ++
  (Assoc.get? "version" block).toList.flatMap (violationUnless Data.isString ⟨.string, "version", none⟩)

def directory? (entries : Entries) : Option Data :=
  match Assoc.get? "outputDir" entries with
  | some v => some v
  | none => Assoc.get? "output_dir" entries

def projectViolations (entries : Entries) : List Violation :=
  (Assoc.get? "domains" entries).toList.flatMap (listViolations "domains") ++
  (Assoc.get? "adapters" entries).toList.flatMap (listViolations "adapters") ++
  (directory? entries).toList.flatMap (violationUnless Data.isString ⟨.path, "output_dir", none⟩)

def HasContracts (entries block : Entries) : Prop :=
  match Assoc.get? "contracts" entries with
  | some (.map given) => block = given
  | some v => v.truthy = false ∧ block = []
  | none => block = []

def Setting {α : Type} (reads : Data → α → Prop) (fallback : α) : Option Data → α → Prop
  | some v, a => reads v a
  | none, a => a = fallback

structure GivesContracts (block : Entries) (format : ContractFormat) (version : String) : Prop where
  format : Setting (fun v format => v = .string format.name) default.format (Assoc.get? "format" block) format
  version : Setting (fun v s => v = .string s) default.version (Assoc.get? "version" block) version

structure Gives (entries : Entries) (c : Config) : Prop where
  contracts : ∃ block, HasContracts entries block ∧ GivesContracts block c.format c.version
  domains : Setting (fun v items => v = .strings items) default.domains
    (Assoc.get? "domains" entries) c.domains
  adapters : Setting (fun v items => v = .strings items) default.adapters
    (Assoc.get? "adapters" entries) c.adapters
  outputDir : Setting (fun v p => ∃ s, v = .string s ∧ p = .ofString s) default.outputDir
    (directory? entries) c.outputDir

structure Acceptable (entries : Entries) : Prop where
  contracts : ∀ v, Assoc.get? "contracts" entries = some v → v.truthy = false ∨ ∃ block, v = .map block ∧
    (∀ format, Assoc.get? "format" block = some format →
      format = .string "openapi" ∨ format = .string "graphql") ∧
    ∀ version, Assoc.get? "version" block = some version → ∃ s, version = .string s
  domains : ∀ v, Assoc.get? "domains" entries = some v → ∃ items, v = .strings items
  adapters : ∀ v, Assoc.get? "adapters" entries = some v → ∃ items, v = .strings items
  outputDir : ∀ v, directory? entries = some v → ∃ s, v = .string s

/-- A result is a value with `good`, or it names all that is `bad`. -/
structure Judged {α : Type} (x : Checked α) (good : α → Prop) (bad : List Violation) : Prop where
  ok_iff : ∀ a, x = .ok a ↔ good a
  violations_eq : violationsOf x = bad
  exists_of_nil : bad = [] → ∃ a, x = .ok a

lemma judged_string (field : String) (index : Option Nat) (v : Data) :
    Judged (checkString field index v) (fun s => v = .string s)
      (violationUnless Data.isString ⟨.string, field, index⟩ v) := by
  cases v with
  | string s => exact ⟨by simp [checkString], rfl, fun _ => ⟨s, rfl⟩⟩
  | _ => exact ⟨by simp [checkString], rfl, fun h => absurd h (List.cons_ne_nil _ _)⟩

lemma judged_path (v : Data) : Judged (checkPath "output_dir" v)
    (fun p => ∃ s, v = .string s ∧ p = .ofString s)
    (violationUnless Data.isString ⟨.path, "output_dir", none⟩ v) := by
  cases v with
  | string s => exact ⟨by simp [checkPath, eq_comm], rfl, fun _ => ⟨.ofString s, rfl⟩⟩
  | _ => exact ⟨by simp [checkPath], rfl, fun h => absurd h (List.cons_ne_nil _ _)⟩

lemma ofName?_eq_some_iff {s : String} {format : ContractFormat} :
    ContractFormat.ofName? s = some format ↔ s = format.name := by
  constructor
  · intro h
    rw [ContractFormat.ofName?] at h
    have hname := List.find?_some h
    exact (beq_iff_eq.mp hname).symm
  · rintro rfl
    cases format <;> rfl

lemma isFormat_name (format : ContractFormat) : isFormat (.string format.name) = true := by
  cases format <;> rfl

lemma isFormat_of_ofName?_eq_none {s : String} (h : ContractFormat.ofName? s = none) :
    isFormat (.string s) = false := by
  have hne (format : ContractFormat) : s ≠ format.name := fun hs => by
    rw [ofName?_eq_some_iff.mpr hs] at h
    cases h
  simp only [isFormat, Bool.or_eq_false_iff, beq_eq_false_iff_ne]
  exact ⟨hne .openapi, hne .graphql⟩

lemma judged_format (v : Data) : Judged (checkFormat "format" v) (fun format => v = .string format.name)
    (violationUnless isFormat ⟨.format, "format", none⟩ v) := by
  cases v with
  | string s =>
    cases h : ContractFormat.ofName? s with
    | some format =>
      have hcheck : checkFormat "format" (.string s) = .ok format := by rw [checkFormat, h]
      rw [hcheck, ofName?_eq_some_iff.mp h]
      refine ⟨fun a => ?_, by simp [violationsOf, violationUnless, isFormat_name], fun _ => ⟨format, rfl⟩⟩
      cases format <;> cases a <;> simp [ContractFormat.name]
    | none =>
      have hcheck : checkFormat "format" (.string s) = .error [⟨.format, "format", none⟩] := by
        rw [checkFormat, h]
      rw [hcheck, violationUnless, isFormat_of_ofName?_eq_none h]
      refine ⟨fun a => ?_, rfl, fun hnil => absurd hnil (List.cons_ne_nil _ _)⟩
      simp [← ofName?_eq_some_iff, h]
  | _ => exact ⟨by simp [checkFormat], rfl, fun h => absurd h (List.cons_ne_nil _ _)⟩

lemma checkItems_string (field : String) (start : Nat) (s : String) (rest : List Data) :
    checkItems field start (.string s :: rest) = (s :: ·) <$> checkItems field (start + 1) rest := by
  rw [checkItems, checkString]
  cases checkItems field (start + 1) rest <;> rfl

lemma checkItems_of_isString_eq_false {item : Data} (h : item.isString = false) (field : String) (start : Nat)
    (rest : List Data) : checkItems field start (item :: rest) =
      .error (⟨.string, field, some start⟩ :: violationsOf (checkItems field (start + 1) rest)) := by
  have hitem : checkString field (some start) item = .error [⟨.string, field, some start⟩] := by
    cases item with
    | string s => cases h
    | _ => rfl
  rw [checkItems, hitem]
  cases checkItems field (start + 1) rest <;> rfl

lemma violationsOf_map {α β : Type} (f : α → β) (x : Checked α) :
    violationsOf (f <$> x) = violationsOf x := by
  cases x <;> rfl

lemma strayPlaces_cons (start : Nat) (item : Data) (rest : List Data) : strayPlaces start (item :: rest) =
    if item.isString then strayPlaces (start + 1) rest else start :: strayPlaces (start + 1) rest := by
  cases h : item.isString <;> simp [strayPlaces, h]

lemma eq_map_string_cons_iff {item : Data} {rest : List Data} {strings : List String} :
    item :: rest = strings.map .string ↔ ∃ s others, item = .string s ∧ rest = others.map .string ∧
      s :: others = strings := by
  cases strings with
  | nil => simp
  | cons first others => simp

lemma exists_of_isString {item : Data} (h : item.isString) : ∃ s, item = .string s := by
  cases item with
  | string s => exact ⟨s, rfl⟩
  | _ => cases h

lemma judged_items (field : String) (start : Nat) (items : List Data) :
    Judged (checkItems field start items) (fun strings => items = strings.map .string)
      ((strayPlaces start items).map fun place => ⟨.string, field, some place⟩) := by
  induction items generalizing start with
  | nil => exact ⟨fun a => by simp [checkItems, eq_comm], rfl, fun _ => ⟨[], rfl⟩⟩
  | cons item rest ih =>
    obtain ⟨hok, hviolations, hnil⟩ := ih (start + 1)
    rw [strayPlaces_cons]
    cases h : item.isString with
    | true =>
      obtain ⟨s, rfl⟩ := exists_of_isString h
      rw [checkItems_string, if_pos rfl]
      refine ⟨fun strings => ?_, by rw [violationsOf_map, hviolations], fun hempty => ?_⟩
      · rw [map_eq_ok, eq_map_string_cons_iff]
        simp only [hok, Data.string.injEq, exists_and_left, exists_eq_left']
      · obtain ⟨others, hothers⟩ := hnil hempty
        exact ⟨s :: others, by rw [hothers, map_ok]⟩
    | false =>
      rw [checkItems_of_isString_eq_false h, if_neg Bool.false_ne_true, List.map_cons]
      refine ⟨fun strings =>
        ?_, by rw [violationsOf, hviolations], fun hempty => absurd hempty (List.cons_ne_nil _ _)⟩
      constructor
      · intro hchecked
        cases hchecked
      · intro hstrings
        obtain ⟨s, -, rfl, -⟩ := eq_map_string_cons_iff.mp hstrings
        cases h

lemma judged_strings (field : String) (v : Data) :
    Judged (checkStrings field v) (fun strings => v = .strings strings) (listViolations field v) := by
  cases v with
  | list items =>
    obtain ⟨hok, hviolations, hnil⟩ := judged_items field 0 items
    exact ⟨fun strings => by simp [checkStrings, hok, Data.strings], hviolations, hnil⟩
  | _ => exact ⟨by simp [checkStrings, Data.strings], rfl, fun h => absurd h (List.cons_ne_nil _ _)⟩

lemma judged_orDefault {α : Type} {check : Data → Checked α} {reads : Data → α → Prop}
    {bad : Data → List Violation}
    (h : ∀ v, Judged (check v) (reads v) (bad v)) (fallback : α) (given : Option Data) :
    Judged (orDefault check fallback given) (Setting reads fallback given) (given.toList.flatMap bad) := by
  cases given with
  | some v =>
    have hbad : (some v).toList.flatMap bad = bad v := List.flatMap_singleton bad v
    exact hbad ▸ h v
  | none => exact ⟨fun a => by simp [orDefault, Setting, eq_comm], rfl, fun _ => ⟨fallback, rfl⟩⟩

lemma contractsOf_eq_ok_iff {format : ContractFormat} {version : String} :
    contractsOf block = .ok (format, version) ↔ GivesContracts block format version := by
  have hformat := judged_orDefault judged_format default.format (Assoc.get? "format" block)
  have hversion :=
    judged_orDefault (judged_string "version" none) default.version (Assoc.get? "version" block)
  rw [contractsOf]
  constructor
  · intro h
    split at h
    · rename_i hf hv
      cases h
      exact ⟨(hformat.ok_iff _).mp hf, (hversion.ok_iff _).mp hv⟩
    · cases h
  · rintro ⟨hf, hv⟩
    rw [← hformat.ok_iff] at hf
    rw [← hversion.ok_iff] at hv
    rw [hf, hv]

lemma contractsViolations_eq (block : Entries) : contractsViolations block =
    violationsOf (orDefault (checkFormat "format") default.format (Assoc.get? "format" block)) ++
    violationsOf (orDefault (checkString "version" none) default.version (Assoc.get? "version" block)) := by
  rw [(judged_orDefault judged_format _ _).violations_eq,
    (judged_orDefault (judged_string "version" none) _ _).violations_eq]
  rfl

lemma contractsOf_eq_error (h : contractsViolations block ≠ []) :
    contractsOf block = .error (.contracts (contractsViolations block)) := by
  rw [contractsViolations_eq] at h ⊢
  rw [contractsOf]
  split
  · rename_i hformat hversion
    simp [hformat, hversion, violationsOf] at h
  · rfl

lemma exists_contractsOf (h : contractsViolations block = []) :
    ∃ contracts, contractsOf block = .ok contracts := by
  obtain ⟨hformat, hversion⟩ := List.append_eq_nil_iff.mp h
  obtain ⟨format, hformat⟩ := (judged_orDefault judged_format default.format _).exists_of_nil hformat
  obtain ⟨version, hversion⟩ :=
    (judged_orDefault (judged_string "version" none) default.version _).exists_of_nil hversion
  exact ⟨(format, version), by rw [contractsOf, hformat, hversion]⟩

lemma contractsEntries_eq_ok_iff :
    contractsEntries (Assoc.get? "contracts" entries) = .ok block ↔ HasContracts entries block := by
  have hcoerced {v : Data} : (if v.truthy then .error Fault.contractsNotObject else .ok []) =
      Except.ok block ↔
      v.truthy = false ∧ block = [] := by
    cases v.truthy <;> simp [eq_comm]
  rw [HasContracts]
  cases Assoc.get? "contracts" entries with
  | none => exact ⟨fun h => (Except.ok.inj h).symm, fun h => congrArg _ (Eq.symm h)⟩
  | some v =>
    cases v with
    | map given => exact ⟨fun h => (Except.ok.inj h).symm, fun h => congrArg _ (Eq.symm h)⟩
    | _ =>
      simp only [contractsEntries]
      exact hcoerced

lemma judged_domains (entries : Entries) : Judged
    (orDefault (checkStrings "domains") default.domains (Assoc.get? "domains" entries))
    (Setting (fun v items => v = .strings items) default.domains (Assoc.get? "domains" entries))
    ((Assoc.get? "domains" entries).toList.flatMap (listViolations "domains")) :=
  judged_orDefault (judged_strings "domains") _ _

lemma judged_adapters (entries : Entries) : Judged
    (orDefault (checkStrings "adapters") default.adapters (Assoc.get? "adapters" entries))
    (Setting (fun v items => v = .strings items) default.adapters (Assoc.get? "adapters" entries))
    ((Assoc.get? "adapters" entries).toList.flatMap (listViolations "adapters")) :=
  judged_orDefault (judged_strings "adapters") _ _

lemma judged_outputDir (entries : Entries) : Judged
    (orDefault (checkPath "output_dir") default.outputDir
      ((Assoc.get? "outputDir" entries).or (Assoc.get? "output_dir" entries)))
    (Setting (fun v p => ∃ s, v = .string s ∧ p = .ofString s) default.outputDir (directory? entries))
    ((directory? entries).toList.flatMap (violationUnless Data.isString ⟨.path, "output_dir", none⟩)) := by
  have hdirectory : (Assoc.get? "outputDir" entries).or (Assoc.get? "output_dir" entries) =
      directory? entries := by
    rw [directory?]
    cases Assoc.get? "outputDir" entries <;> rfl
  rw [hdirectory]
  exact judged_orDefault judged_path _ _

lemma projectViolations_eq (entries : Entries) : projectViolations entries =
    violationsOf (orDefault (checkStrings "domains") default.domains (Assoc.get? "domains" entries)) ++
    violationsOf (orDefault (checkStrings "adapters") default.adapters (Assoc.get? "adapters" entries)) ++
    violationsOf (orDefault (checkPath "output_dir") default.outputDir
      ((Assoc.get? "outputDir" entries).or (Assoc.get? "output_dir" entries))) := by
  rw [(judged_domains entries).violations_eq, (judged_adapters entries).violations_eq,
    (judged_outputDir entries).violations_eq]
  rfl

lemma ofEntries_eq_ok_iff {c : Config} : ofEntries entries = .ok c ↔ Gives entries c := by
  rw [ofEntries]
  constructor
  · intro h
    obtain ⟨block, hblock, h⟩ := bind_eq_ok.mp h
    obtain ⟨⟨format, version⟩, hcontracts, h⟩ := bind_eq_ok.mp h
    dsimp only at h
    split at h
    · rename_i hdomains hadapters houtputDir
      cases h
      exact ⟨⟨block, contractsEntries_eq_ok_iff.mp hblock, contractsOf_eq_ok_iff.mp hcontracts⟩,
        ((judged_domains entries).ok_iff _).mp hdomains, ((judged_adapters entries).ok_iff _).mp hadapters,
        ((judged_outputDir entries).ok_iff _).mp houtputDir⟩
    · cases h
  · rintro ⟨⟨block, hblock, hcontracts⟩, hdomains, hadapters, houtputDir⟩
    rw [contractsEntries_eq_ok_iff.mpr hblock, ok_bind, contractsOf_eq_ok_iff.mpr hcontracts, ok_bind]
    dsimp only
    rw [((judged_domains entries).ok_iff _).mpr hdomains, ((judged_adapters entries).ok_iff _).mpr hadapters,
      ((judged_outputDir entries).ok_iff _).mpr houtputDir]

lemma ofEntries_of_contractsViolations (hblock : HasContracts entries block)
    (h : contractsViolations block ≠ []) :
    ofEntries entries = .error (.contracts (contractsViolations block)) := by
  rw [ofEntries, contractsEntries_eq_ok_iff.mpr hblock, ok_bind, contractsOf_eq_error h, error_bind]

lemma ofEntries_of_projectViolations (hblock : HasContracts entries block)
    (hcontracts : contractsViolations block = []) (h : projectViolations entries ≠ []) :
    ofEntries entries = .error (.project (projectViolations entries)) := by
  obtain ⟨contracts, hcontracts⟩ := exists_contractsOf hcontracts
  rw [projectViolations_eq] at h ⊢
  rw [ofEntries, contractsEntries_eq_ok_iff.mpr hblock, ok_bind, hcontracts, ok_bind]
  dsimp only
  split
  · rename_i hdomains hadapters houtputDir
    simp [hdomains, hadapters, houtputDir, violationsOf] at h
  · rfl

lemma exists_ofEntries (hblock : HasContracts entries block) (hcontracts : contractsViolations block = [])
    (h : projectViolations entries = []) : ∃ c, ofEntries entries = .ok c := by
  obtain ⟨⟨format, version⟩, hcontracts⟩ := exists_contractsOf hcontracts
  obtain ⟨h, houtputDir⟩ := List.append_eq_nil_iff.mp h
  obtain ⟨hdomains, hadapters⟩ := List.append_eq_nil_iff.mp h
  obtain ⟨domains, hdomains⟩ := (judged_domains entries).exists_of_nil hdomains
  obtain ⟨adapters, hadapters⟩ := (judged_adapters entries).exists_of_nil hadapters
  obtain ⟨outputDir, houtputDir⟩ := (judged_outputDir entries).exists_of_nil houtputDir
  refine ⟨⟨domains, adapters, format, version, outputDir⟩, ofEntries_eq_ok_iff.mpr ?_⟩
  exact ⟨⟨block, hblock, contractsOf_eq_ok_iff.mp hcontracts⟩,
    ((judged_domains entries).ok_iff _).mp hdomains,
    ((judged_adapters entries).ok_iff _).mp hadapters, ((judged_outputDir entries).ok_iff _).mp houtputDir⟩

lemma ofEntries_of_noObject {v : Data} (hv : Assoc.get? "contracts" entries = some v)
    (htrue : v.truthy = true)
    (hmap : ∀ block, v ≠ .map block) : ofEntries entries = .error .contractsNotObject := by
  have hentries : contractsEntries (some v) = .error .contractsNotObject := by
    cases v with
    | map block => exact absurd rfl (hmap block)
    | _ => exact if_pos htrue
  rw [ofEntries, hv, hentries, error_bind]

lemma hasContracts_of_map (h : Assoc.get? "contracts" entries = some (.map block)) :
    HasContracts entries block := by
  rw [HasContracts, h]

lemma hasContracts_of_truthy_eq_false {v : Data} (hv : Assoc.get? "contracts" entries = some v)
    (h : v.truthy = false) :
    HasContracts entries [] := by
  rw [HasContracts, hv]
  cases v with
  | map given =>
    have hempty : given = [] := by simpa [Data.truthy] using h
    exact hempty.symm
  | _ => exact ⟨h, rfl⟩

lemma hasContracts_or_noObject (entries : Entries) : (∃ block, HasContracts entries block) ∨
    ∃ v, Assoc.get? "contracts" entries = some v ∧ v.truthy = true ∧ ∀ block, v ≠ .map block := by
  cases hv : Assoc.get? "contracts" entries with
  | none => exact .inl ⟨[], by rw [HasContracts, hv]⟩
  | some v =>
    by_cases hmap : ∃ block, v = .map block
    · obtain ⟨block, rfl⟩ := hmap
      exact .inl ⟨block, hasContracts_of_map hv⟩
    · cases htrue : v.truthy with
      | true => exact .inr ⟨v, rfl, htrue, not_exists.mp hmap⟩
      | false => exact .inl ⟨[], hasContracts_of_truthy_eq_false hv htrue⟩

lemma exists_setting_iff {α : Type} {reads : Data → α → Prop} (fallback : α) {given : Option Data} :
    (∃ a, Setting reads fallback given a) ↔ ∀ v, given = some v → ∃ a, reads v a := by
  cases given with
  | none => exact ⟨fun _ v hv => (Option.some_ne_none v hv.symm).elim, fun _ => ⟨fallback, rfl⟩⟩
  | some v => exact ⟨fun h w hw => Option.some.inj hw ▸ h, fun h => h v rfl⟩

lemma isFormat_iff {v : Data} : (∃ format : ContractFormat, v = .string format.name) ↔
    v = .string "openapi" ∨ v = .string "graphql" := by
  constructor
  · rintro ⟨format, rfl⟩
    cases format
    · exact .inl rfl
    · exact .inr rfl
  · rintro (rfl | rfl)
    · exact ⟨.openapi, rfl⟩
    · exact ⟨.graphql, rfl⟩

lemma exists_givesContracts_iff : (∃ format version, GivesContracts block format version) ↔
    (∀ format, Assoc.get? "format" block = some format →
      format = .string "openapi" ∨ format = .string "graphql") ∧
    ∀ version, Assoc.get? "version" block = some version → ∃ s, version = .string s := by
  simp only [← isFormat_iff, ← exists_setting_iff default.format, ← exists_setting_iff default.version]
  constructor
  · rintro ⟨format, version, hformat, hversion⟩
    exact ⟨⟨format, hformat⟩, ⟨version, hversion⟩⟩
  · rintro ⟨⟨format, hformat⟩, ⟨version, hversion⟩⟩
    exact ⟨format, version, hformat, hversion⟩

lemma exists_hasContracts_iff :
    (∃ block, HasContracts entries block ∧ ∃ format version, GivesContracts block format version) ↔
    ∀ v, Assoc.get? "contracts" entries = some v → v.truthy = false ∨ ∃ block, v = .map block ∧
      ∃ format version, GivesContracts block format version := by
  have hdefault : ∃ format version, GivesContracts [] format version :=
    ⟨default.format, default.version, rfl, rfl⟩
  constructor
  · rintro ⟨block, hblock, hgives⟩ v hv
    rw [HasContracts, hv] at hblock
    cases v with
    | map given => exact .inr ⟨given, rfl, hblock ▸ hgives⟩
    | _ => exact .inl hblock.1
  · intro h
    cases hv : Assoc.get? "contracts" entries with
    | none => exact ⟨[], by rw [HasContracts, hv], hdefault⟩
    | some v =>
      rcases h v hv with hfalse | ⟨block, rfl, hgives⟩
      · exact ⟨[], hasContracts_of_truthy_eq_false hv hfalse, hdefault⟩
      · exact ⟨block, hasContracts_of_map hv, hgives⟩

lemma exists_gives_iff : (∃ c, Gives entries c) ↔ Acceptable entries := by
  constructor
  · rintro ⟨c, ⟨block, hblock, hcontracts⟩, hdomains, hadapters, houtputDir⟩
    refine ⟨?_, (exists_setting_iff _).mp ⟨_, hdomains⟩,
      (exists_setting_iff _).mp ⟨_, hadapters⟩, fun v hv => ?_⟩
    · simp only [← exists_givesContracts_iff]
      exact exists_hasContracts_iff.mp ⟨block, hblock, c.format, c.version, hcontracts⟩
    · obtain ⟨p, s, hs, -⟩ := (exists_setting_iff _).mp ⟨_, houtputDir⟩ v hv
      exact ⟨s, hs⟩
  · rintro ⟨hcontracts, hdomains, hadapters, houtputDir⟩
    simp only [← exists_givesContracts_iff] at hcontracts
    obtain ⟨block, hblock, format, version, hgives⟩ := exists_hasContracts_iff.mpr hcontracts
    have hpaths : ∀ v, directory? entries = some v → ∃ p, ∃ s, v = .string s ∧ p = Path.ofString s := by
      intro v hv
      obtain ⟨s, hs⟩ := houtputDir v hv
      exact ⟨.ofString s, s, hs, rfl⟩
    obtain ⟨domains, hdomains⟩ := (exists_setting_iff default.domains).mpr hdomains
    obtain ⟨adapters, hadapters⟩ := (exists_setting_iff default.adapters).mpr hadapters
    obtain ⟨outputDir, houtputDir⟩ := (exists_setting_iff default.outputDir).mpr hpaths
    exact ⟨⟨domains, adapters, format, version, outputDir⟩, ⟨block, hblock, hgives⟩, hdomains,
      hadapters, houtputDir⟩

/--
Data is accepted exactly if each value that is there can be read, and then gives what is there and
the defaults for the rest. Otherwise contracts that are no mapping are told alone, then the
violations in the contracts alone, then all others in the order of the fields and of the places in
their lists.
-/
theorem accepted_or_violations (entries : List (String × Data)) :
    ((∃ c, ofEntries entries = .ok c) ↔ Acceptable entries) ∧
    (∀ c, ofEntries entries = .ok c ↔ Gives entries c) ∧
    Fault.contractsNotObject.message = "Invalid configuration: 'contracts' must be an object" ∧
    ∀ fault, ofEntries entries = .error fault ↔
      (fault = .contractsNotObject ∧
        ∃ v, Assoc.get? "contracts" entries = some v ∧ v.truthy = true ∧ ∀ block, v ≠ .map block) ∨
      ∃ block, HasContracts entries block ∧
        (contractsViolations block ≠ [] ∧ fault = .contracts (contractsViolations block) ∨
          contractsViolations block = [] ∧ projectViolations entries ≠ [] ∧
          fault = .project (projectViolations entries)) := by
  refine ⟨?_, fun c => ofEntries_eq_ok_iff, rfl, fun fault => ⟨fun h => ?_, ?_⟩⟩
  · simp only [ofEntries_eq_ok_iff]
    exact exists_gives_iff
  · rcases hasContracts_or_noObject entries with ⟨block, hblock⟩ | ⟨v, hv, htrue, hmap⟩
    · refine .inr ⟨block, hblock, ?_⟩
      by_cases hcontracts : contractsViolations block = []
      · by_cases hproject : projectViolations entries = []
        · obtain ⟨c, hc⟩ := exists_ofEntries hblock hcontracts hproject
          rw [hc] at h
          cases h
        · rw [ofEntries_of_projectViolations hblock hcontracts hproject] at h
          exact .inr ⟨hcontracts, hproject, (Except.error.inj h).symm⟩
      · rw [ofEntries_of_contractsViolations hblock hcontracts] at h
        exact .inl ⟨hcontracts, (Except.error.inj h).symm⟩
    · rw [ofEntries_of_noObject hv htrue hmap] at h
      exact .inl ⟨(Except.error.inj h).symm, v, hv, htrue, hmap⟩
  · rintro (⟨rfl, v, hv, htrue, hmap⟩ | ⟨block, hblock, ⟨hcontracts, rfl⟩ | ⟨hcontracts, hproject, rfl⟩⟩)
    · exact ofEntries_of_noObject hv htrue hmap
    · exact ofEntries_of_contractsViolations hblock hcontracts
    · exact ofEntries_of_projectViolations hblock hcontracts hproject

end Config

end ApiScaffold
