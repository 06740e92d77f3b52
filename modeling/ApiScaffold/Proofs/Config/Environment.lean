import ApiScaffold.Config.Environment
import ApiScaffold.Proofs.Config.Validate
import ApiScaffold.Proofs.FileTree.Path
import ApiScaffold.Proofs.Text.Trim

namespace ApiScaffold.Config

open Text

variable {env : Environment} {c : Config} {tokens : List String} {items : List (List Char)} {text : String}

structure IsToken (s : String) : Prop where
  ne_empty : s ≠ ""
  noComma : ',' ∉ s.toList
  trimmed : Trimmed s.toList

/-- Items that hold tokens in their order, with blanks around each and blank items in between. -/
inductive Padded : List String → List (List Char) → Prop where
  | nil : Padded [] []
  | blank {tokens : List String} {items : List (List Char)} {s : List Char} (hs : ∀ c ∈ s, isBlank c)
      (h : Padded tokens items) : Padded tokens (s :: items)
  | token {tokens : List String} {items : List (List Char)} {before after : List Char} (s : String)
      (hbefore : ∀ c ∈ before, isBlank c) (hafter : ∀ c ∈ after, isBlank c) (h : Padded tokens items) :
      Padded (s :: tokens) ((before ++ (s.toList ++ after)) :: items)

def Lists (text : String) (tokens : List String) : Prop :=
  ∃ items, Padded tokens items ∧ text.toList = [','].intercalate items

lemma notMem_of_blank {s : List Char} (h : ∀ c ∈ s, isBlank c) : ',' ∉ s :=
  fun hmem => absurd (h ',' hmem) (by decide)

lemma Padded.noComma (h : Padded tokens items) (htokens : ∀ s ∈ tokens, IsToken s) :
    ∀ item ∈ items, ',' ∉ item := by
  induction h with
  | nil => exact List.forall_mem_nil _
  | blank hs h ih => exact List.forall_mem_cons.mpr ⟨notMem_of_blank hs, ih htokens⟩
  | token s hbefore hafter h ih =>
    obtain ⟨hs, hrest⟩ := List.forall_mem_cons.mp htokens
    refine List.forall_mem_cons.mpr ⟨?_, ih hrest⟩
    simp only [List.mem_append, not_or]
    exact ⟨notMem_of_blank hbefore, hs.noComma, notMem_of_blank hafter⟩

def tokensOf (items : List (List Char)) : List String :=
  ((items.map strip).filter (· != [])).map String.ofList

lemma listItems_eq (text : String) : listItems text = tokensOf (splitAt ',' text.toList) := rfl

lemma tokensOf_cons (item : List Char) (items : List (List Char)) :
    tokensOf (item :: items) = if strip item = [] then tokensOf items
    else String.ofList (strip item) :: tokensOf items := by
  by_cases h : strip item = [] <;> simp [tokensOf, h]

lemma Padded.tokensOf_eq (h : Padded tokens items) (htokens : ∀ s ∈ tokens, IsToken s) :
    tokensOf items = tokens := by
  induction h with
  | nil => rfl
  | blank hs h ih => rw [tokensOf_cons, if_pos (strip_of_blank hs), ih htokens]
  | token s hbefore hafter h ih =>
    obtain ⟨hs, hrest⟩ := List.forall_mem_cons.mp htokens
    have hne : s.toList ≠ [] := by simpa using hs.ne_empty
    rw [tokensOf_cons, strip_append hbefore hs.trimmed hafter, if_neg hne, ih hrest, String.ofList_toList]

lemma padded_tokensOf (items : List (List Char)) : Padded (tokensOf items) items := by
  induction items with
  | nil => exact .nil
  | cons item items ih =>
    obtain ⟨before, after, hitem, hbefore, hafter⟩ := exists_append_strip item
    rw [tokensOf_cons]
    split
    · rename_i hstrip
      rw [hstrip, List.nil_append] at hitem
      refine .blank (fun c hc => ?_) ih
      rw [hitem, List.mem_append] at hc
      exact hc.elim (hbefore c) (hafter c)
    · have hpadded := Padded.token (String.ofList (strip item)) hbefore hafter ih
      rwa [String.toList_ofList, ← hitem] at hpadded

lemma lists_listItems (text : String) : Lists text (listItems text) :=
  ⟨_, padded_tokensOf _, (intercalate_splitAt ',' text.toList).symm⟩

lemma listItems_of_lists (htokens : ∀ s ∈ tokens, IsToken s) (h : Lists text tokens) :
    listItems text = tokens := by
  obtain ⟨items, hitems, htext⟩ := h
  rw [listItems_eq, htext]
  -- No item at all and one empty item are the same text.
  by_cases hne : items = []
  · subst hne
    cases hitems
    rfl
  · rw [splitAt_intercalate hne (hitems.noComma htokens), hitems.tokensOf_eq htokens]

lemma isToken_of_mem_listItems {s : String} (h : s ∈ listItems text) : IsToken s := by
  obtain ⟨stripped, hmem, rfl⟩ := List.mem_map.mp h
  obtain ⟨hmem, hne⟩ := List.mem_filter.mp hmem
  obtain ⟨part, hpart, rfl⟩ := List.mem_map.mp hmem
  obtain ⟨before, after, hstrip, -, -⟩ := exists_append_strip part
  refine ⟨by simpa using hne, ?_, ?_⟩
  · rw [String.toList_ofList]
    intro hcomma
    refine notMem_of_mem_splitAt hpart ?_
    rw [hstrip]
    exact List.mem_append_right _ (List.mem_append_left _ hcomma)
  · rw [String.toList_ofList]
    exact trimmed_strip part

lemma text_ne_empty_of_lists (htokens : ∀ s ∈ tokens, IsToken s) (hne : tokens ≠ [])
    (h : Lists text tokens) : text ≠ "" := by
  rintro rfl
  exact hne (listItems_of_lists htokens h).symm

def Given (env : Environment) (name s : String) : Prop :=
  Assoc.get? ("BRIDGEGEN_" ++ name) env = some s ∧ s ≠ ""

structure Variable (env : Environment) (name : String) (given : String → Prop) (otherwise : Prop) : Prop where
  of_given : ∀ s, Given env name s → given s
  of_unset : (∀ s, ¬Given env name s) → otherwise

structure FromVariables (env : Environment) (c : Config) : Prop where
  domains : Variable env "DOMAINS" (fun s => Lists s c.domains ∧ ∀ token ∈ c.domains, IsToken token)
    (c.domains = default.domains)
  adapters : Variable env "ADAPTERS" (fun s => Lists s c.adapters ∧ ∀ token ∈ c.adapters, IsToken token)
    (c.adapters = default.adapters)
  format : Variable env "CONTRACT_FORMAT" (fun s => s = c.format.name) (c.format = default.format)
  version : Variable env "CONTRACT_VERSION" (fun s => c.version = s) (c.version = default.version)
  outputDir : Variable env "OUTPUT_DIR" (fun s => c.outputDir = .ofString s) (c.outputDir = default.outputDir)

lemma setting?_eq_some_iff {name s : String} : setting? name env = some s ↔ Given env name s := by
  rw [setting?, Given, Option.filter_eq_some_iff, bne_iff_ne]

lemma setting?_eq_none_iff {name : String} : setting? name env = none ↔ ∀ s, ¬Given env name s := by
  simp only [Option.eq_none_iff_forall_ne_some, ne_eq, setting?_eq_some_iff]

lemma variable_of_setting {name : String} {given : String → Prop} {otherwise : Prop}
    (hgiven : ∀ s, setting? name env = some s → given s) (hunset : setting? name env = none → otherwise) :
    Variable env name given otherwise :=
  ⟨fun s hs => hgiven s (setting?_eq_some_iff.mpr hs), fun h => hunset (setting?_eq_none_iff.mpr h)⟩

def environmentBlock (env : Environment) : Entries :=
  entry "format" ((setting? "CONTRACT_FORMAT" env).map .string) ++
    entry "version" ((setting? "CONTRACT_VERSION" env).map .string)

def environmentEntries (env : Environment) : Entries :=
  entry "domains" ((setting? "DOMAINS" env).map fun s => .strings (listItems s)) ++
    entry "adapters" ((setting? "ADAPTERS" env).map fun s => .strings (listItems s)) ++
    [("contracts", .map (environmentBlock env))] ++
      entry "outputDir" ((setting? "OUTPUT_DIR" env).map .string)

lemma ofEnvironment_eq (env : Environment) : ofEnvironment env = ofEntries (environmentEntries env) := rfl

lemma get?_entry_append (key name : String) (value : Option Data) (rest : Entries) :
    Assoc.get? name (entry key value ++ rest) = if key = name then value.or (Assoc.get? name rest)
    else Assoc.get? name rest := by
  cases value <;> simp [entry, Assoc.get?]

lemma get?_entry (key name : String) (value : Option Data) :
    Assoc.get? name (entry key value) = if key = name then value else none := by
  cases value <;> simp [entry, Assoc.get?]

lemma get?_environmentBlock (env : Environment) :
    Assoc.get? "format" (environmentBlock env) = (setting? "CONTRACT_FORMAT" env).map .string ∧
    Assoc.get? "version" (environmentBlock env) = (setting? "CONTRACT_VERSION" env).map .string := by
  simp [environmentBlock, get?_entry_append, get?_entry]

lemma get?_environmentEntries (env : Environment) :
    Assoc.get? "domains" (environmentEntries env) =
      (setting? "DOMAINS" env).map (fun s => .strings (listItems s)) ∧
    Assoc.get? "adapters" (environmentEntries env) =
      (setting? "ADAPTERS" env).map (fun s => .strings (listItems s)) ∧
    Assoc.get? "contracts" (environmentEntries env) = some (.map (environmentBlock env)) ∧
    directory? (environmentEntries env) = (setting? "OUTPUT_DIR" env).map .string := by
  have hdirectory : Assoc.get? "outputDir" (environmentEntries env) =
      (setting? "OUTPUT_DIR" env).map .string := by
    simp [environmentEntries, get?_entry_append, get?_entry, Assoc.get?]
  have hother : Assoc.get? "output_dir" (environmentEntries env) = none := by
    simp [environmentEntries, get?_entry_append, get?_entry, Assoc.get?]
  refine ⟨?_, ?_, ?_, ?_⟩
  · simp [environmentEntries, get?_entry_append, get?_entry, Assoc.get?]
  · simp [environmentEntries, get?_entry_append, get?_entry, Assoc.get?]
  · simp [environmentEntries, get?_entry_append, Assoc.get?]
  · rw [directory?, hdirectory, hother]
    cases setting? "OUTPUT_DIR" env <;> rfl

lemma hasContracts_environment (env : Environment) : HasContracts (environmentEntries env)
    (environmentBlock env) :=
  hasContracts_of_map (get?_environmentEntries env).2.2.1

lemma ofEnvironment_of_unknown {s : String} (hs : setting? "CONTRACT_FORMAT" env = some s)
    (hunknown : s ≠ "openapi" ∧ s ≠ "graphql") :
    ofEnvironment env = .error (.contracts [⟨.format, "format", none⟩]) := by
  have hviolations : contractsViolations (environmentBlock env) = [⟨.format, "format", none⟩] := by
    have hversion : ((setting? "CONTRACT_VERSION" env).map Data.string).toList.flatMap
        (violationUnless Data.isString ⟨.string, "version", none⟩) = [] := by
      cases setting? "CONTRACT_VERSION" env <;> rfl
    have hformat : isFormat (.string s) = false := by simp [isFormat, hunknown]
    rw [contractsViolations, (get?_environmentBlock env).1, (get?_environmentBlock env).2, hversion, hs]
    simp [violationUnless, hformat]
  rw [ofEnvironment_eq,
    ofEntries_of_contractsViolations (hasContracts_environment env) (by simp [hviolations]), hviolations]

def given (env : Environment) (format : ContractFormat) : Config where
  domains := ((setting? "DOMAINS" env).map listItems).getD default.domains
  adapters := ((setting? "ADAPTERS" env).map listItems).getD default.adapters
  format := format
  version := (setting? "CONTRACT_VERSION" env).getD default.version
  outputDir := ((setting? "OUTPUT_DIR" env).map Path.ofString).getD default.outputDir

lemma setting_map {α : Type} {reads : Data → α → Prop} (put : String → Data) (get : String → α)
    (h : ∀ s, reads (put s) (get s)) (fallback : α) (value : Option String) :
    Setting reads fallback (value.map put) ((value.map get).getD fallback) := by
  cases value with
  | none => rfl
  | some s => exact h s

lemma ofEnvironment_of_format {format : ContractFormat}
    (h : Setting (fun v format => v = .string format.name) default.format
      ((setting? "CONTRACT_FORMAT" env).map .string) format) : ofEnvironment env =
        .ok (given env format) := by
  obtain ⟨hdomains, hadapters, -, hdirectory⟩ := get?_environmentEntries env
  obtain ⟨hformat, hversion⟩ := get?_environmentBlock env
  rw [ofEnvironment_eq, ofEntries_eq_ok_iff]
  refine ⟨⟨_, hasContracts_environment env, ?_, ?_⟩, ?_, ?_, ?_⟩
  · rwa [hformat]
  · rw [hversion, given]
    cases setting? "CONTRACT_VERSION" env <;> rfl
  · rw [hdomains]
    exact setting_map (fun s => .strings (listItems s)) listItems (fun s => rfl) _ _
  · rw [hadapters]
    exact setting_map (fun s => .strings (listItems s)) listItems (fun s => rfl) _ _
  · rw [hdirectory]
    exact setting_map .string Path.ofString (fun s => ⟨s, rfl, rfl⟩) _ _

lemma fromVariables_given {format : ContractFormat}
    (h : Variable env "CONTRACT_FORMAT" (fun s => s = format.name) (format = default.format)) :
    FromVariables env (given env format) where
  domains := variable_of_setting
    (fun s hs => by
      rw [given, hs]
      exact ⟨lists_listItems s, fun token => isToken_of_mem_listItems⟩)
    (fun hs => by rw [given, hs]; rfl)
  adapters := variable_of_setting
    (fun s hs => by
      rw [given, hs]
      exact ⟨lists_listItems s, fun token => isToken_of_mem_listItems⟩)
    (fun hs => by rw [given, hs]; rfl)
  format := h
  version := variable_of_setting (fun s hs => by rw [given, hs]; rfl) (fun hs => by rw [given, hs]; rfl)
  outputDir := variable_of_setting (fun s hs => by rw [given, hs]; rfl) (fun hs => by rw [given, hs]; rfl)

lemma ofEnvironment_cases (env : Environment) :
    (ofEnvironment env = .error (.contracts [⟨.format, "format", none⟩]) ∧
      ∃ s, Given env "CONTRACT_FORMAT" s ∧ s ≠ "openapi" ∧ s ≠ "graphql") ∨
    ∃ c, ofEnvironment env = .ok c ∧ FromVariables env c := by
  cases hs : setting? "CONTRACT_FORMAT" env with
  | none =>
    have hformat : Setting (fun v format => v = .string format.name) default.format
        ((setting? "CONTRACT_FORMAT" env).map .string) default.format := by
      rw [hs]
      rfl
    refine .inr ⟨_, ofEnvironment_of_format hformat,
      fromVariables_given (variable_of_setting (fun s hsome => ?_) fun _ => rfl)⟩
    rw [hs] at hsome
    cases hsome
  | some s =>
    cases hname : ContractFormat.ofName? s with
    | some format =>
      obtain rfl := ofName?_eq_some_iff.mp hname
      have hformat : Setting (fun v format => v = .string format.name) default.format
          ((setting? "CONTRACT_FORMAT" env).map .string) format := by
        rw [hs]
        rfl
      refine .inr ⟨_, ofEnvironment_of_format hformat,
        fromVariables_given (variable_of_setting (fun t ht => ?_) fun hnone => ?_)⟩
      · rw [hs] at ht
        exact (Option.some.inj ht).symm
      · rw [hs] at hnone
        cases hnone
    | none =>
      have hunknown : s ≠ "openapi" ∧ s ≠ "graphql" := by
        simpa [isFormat] using isFormat_of_ofName?_eq_none hname
      exact .inl ⟨ofEnvironment_of_unknown hs hunknown, s, setting?_eq_some_iff.mp hs, hunknown⟩

structure Listable (c : Config) : Prop where
  domains_ne : c.domains ≠ []
  adapters_ne : c.adapters ≠ []
  tokens : ∀ token ∈ c.domains ++ c.adapters, IsToken token
  version_ne : c.version ≠ ""
  outputDir : c.outputDir.Normal

structure Holds (env : Environment) (c : Config) : Prop where
  domains : ∃ text, Assoc.get? "BRIDGEGEN_DOMAINS" env = some text ∧ Lists text c.domains
  adapters : ∃ text, Assoc.get? "BRIDGEGEN_ADAPTERS" env = some text ∧ Lists text c.adapters
  format : Assoc.get? "BRIDGEGEN_CONTRACT_FORMAT" env = some c.format.name
  version : Assoc.get? "BRIDGEGEN_CONTRACT_VERSION" env = some c.version
  outputDir : Assoc.get? "BRIDGEGEN_OUTPUT_DIR" env = some c.outputDir.text

lemma eq_of_lists {tokens other : List String} (hother : Lists text other) (hlisted : ∀ s ∈ other, IsToken s)
    (htokens : ∀ s ∈ tokens, IsToken s) (h : Lists text tokens) : other = tokens :=
  (listItems_of_lists hlisted hother).symm.trans (listItems_of_lists htokens h)

lemma name_ne_empty (format : ContractFormat) : format.name ≠ "" := by
  cases format <;> decide

lemma name_inj {format other : ContractFormat} (h : format.name = other.name) : format = other := by
  have hname := ofName?_eq_some_iff.mpr (Eq.refl format.name)
  exact Option.some.inj (hname.symm.trans (ofName?_eq_some_iff.mpr h))

lemma text_ne_empty {p : Path} (h : p.Normal) : p.text ≠ "" := by
  intro htext
  -- The empty text is read as the working directory, which is told as a dot.
  have hp := Path.ofString_text h
  rw [htext] at hp
  rw [← hp] at htext
  exact absurd htext (by decide)

lemma eq_of_holds {other : Config} (hc : Listable c) (h : Holds env c)
    (hother : FromVariables env other) : other = c := by
  obtain ⟨hdomains, hadapters⟩ := List.forall_mem_append.mp hc.tokens
  obtain ⟨domains, hgetDomains, hlistsDomains⟩ := h.domains
  obtain ⟨adapters, hgetAdapters, hlistsAdapters⟩ := h.adapters
  obtain ⟨hotherDomains, hdomainTokens⟩ :=
    hother.domains.of_given domains ⟨hgetDomains, text_ne_empty_of_lists hdomains hc.domains_ne hlistsDomains⟩
  obtain ⟨hotherAdapters, hadapterTokens⟩ :=
    hother.adapters.of_given adapters ⟨hgetAdapters,
      text_ne_empty_of_lists hadapters hc.adapters_ne hlistsAdapters⟩
  have hformat := hother.format.of_given _ ⟨h.format, name_ne_empty c.format⟩
  have hversion := hother.version.of_given _ ⟨h.version, hc.version_ne⟩
  have houtputDir := hother.outputDir.of_given _ ⟨h.outputDir, text_ne_empty hc.outputDir⟩
  rw [Path.ofString_text hc.outputDir] at houtputDir
  obtain ⟨otherDomains, otherAdapters, otherFormat, otherVersion, otherOutputDir⟩ := other
  dsimp only at hotherDomains hdomainTokens hotherAdapters hadapterTokens hformat hversion houtputDir
  rw [eq_of_lists hotherDomains hdomainTokens hdomains hlistsDomains,
    eq_of_lists hotherAdapters hadapterTokens hadapters hlistsAdapters, ← name_inj hformat,
    hversion, houtputDir]

/--
Variables that hold a configuration give it back. Any other ones give the tokens that they list,
what they say of the contracts and the directory, and the defaults for the rest, unless the format
is unknown.
-/
theorem ofEnvironment_of_variables :
    (∀ (c : Config) (env : Environment), Listable c → Holds env c → ofEnvironment env = .ok c) ∧
    ∀ env : Environment,
      (ofEnvironment env = .error (.contracts [⟨.format, "format", none⟩]) ∧
        ∃ s, Given env "CONTRACT_FORMAT" s ∧ s ≠ "openapi" ∧ s ≠ "graphql") ∨
      ∃ c, ofEnvironment env = .ok c ∧ FromVariables env c := by
  refine ⟨fun c env hc h => ?_, ofEnvironment_cases⟩
  rcases ofEnvironment_cases env with ⟨-, s, hs, hopenapi, hgraphql⟩ | ⟨other, hother, hfrom⟩
  · have hformat : s = c.format.name := Option.some.inj (hs.1.symm.trans h.format)
    cases hf : c.format with
    | openapi => exact absurd (hformat.trans (by rw [hf]; rfl)) hopenapi
    | graphql => exact absurd (hformat.trans (by rw [hf]; rfl)) hgraphql
  · rw [hother, eq_of_holds hc h hfrom]

theorem ofEnvironment_of_padded_variables :
    let c : Config := ⟨["a b", "é"], ["web"], .graphql, " 1", ⟨.relative, []⟩⟩
    let env : Environment := [("BRIDGEGEN_DOMAINS", ",\ta b\n, ,,\x1cé,"), ("BRIDGEGEN_ADAPTERS", " web"),
      ("BRIDGEGEN_CONTRACT_FORMAT", "graphql"), ("BRIDGEGEN_CONTRACT_VERSION", " 1"),
      ("BRIDGEGEN_OUTPUT_DIR", ".")]
    Listable c ∧ Holds env c ∧ ofEnvironment env = .ok c := by
  intro c env
  have htoken : ∀ token ∈ c.domains ++ c.adapters, IsToken token := by
    simp only [c, List.cons_append, List.nil_append, List.forall_mem_cons]
    exact ⟨⟨by decide, by decide, trimmed_iff.mpr (by decide)⟩,
      ⟨by decide, by decide, trimmed_iff.mpr (by decide)⟩,
      ⟨by decide, by decide, trimmed_iff.mpr (by decide)⟩, List.forall_mem_nil _⟩
  have hc : Listable c := ⟨by decide, by decide, htoken, by decide, List.forall_mem_nil _⟩
  have hdomains : Lists ",\ta b\n, ,,\x1cé," c.domains := lists_listItems ",\ta b\n, ,,\x1cé,"
  have hadapters : Lists " web" c.adapters := lists_listItems " web"
  have h : Holds env c := ⟨⟨_, rfl, hdomains⟩, ⟨_, rfl, hadapters⟩, rfl, rfl, rfl⟩
  exact ⟨hc, h, ofEnvironment_of_variables.1 c env hc h⟩

end ApiScaffold.Config
