import ApiScaffold.Proofs.Package.Adapter
import ApiScaffold.Proofs.Package.Contracts
import ApiScaffold.Proofs.Package.Core
import ApiScaffold.Run.Build
import Mathlib.Data.List.Forall2

namespace ApiScaffold.Run

open ArtifactSet Chain

def sizes (config : Config) : Target → List (String × Nat)
  | .core => [(PackageName.core, 8 + 6 * config.domains.length)]
  | .contracts =>
    [(PackageName.contracts, 5 + config.domains.length + if config.format = .graphql then 1 else 0)]
  | .adapters => config.adapters.map fun id =>
    (PackageName.adapter id, 8 + config.domains.length + if (Profile.resolve id).offline then 1 else 0)

def sharedPaths (config : Config) (cap : String) : Target → List DuplicatePath
  | .core => [⟨PackageName.core, "src/domain/models/" ++ cap ++ ".ts"⟩]
  | .contracts => [⟨PackageName.contracts, "schemas/" ++ cap ++ ".schema.json"⟩]
  | .adapters => config.adapters.map fun id =>
    ⟨PackageName.adapter id, "src/controllers/" ++ cap ++ "Controller.ts"⟩

def Plain (config : Config) : Prop :=
  ∀ token ∈ config.domains, '/' ∉ token.toList ∧ '\x7b' ∉ token.toList ∧ '\x7d' ∉ token.toList

variable {config : Config} {selection : Selection}

lemma capitalized_domains (tokens : List String) :
    (tokens.map Domain.mk).map Domain.capitalized = tokens.map Text.capitalize := by
  simp [Domain.capitalized, Function.comp_def]

lemma Plain.pathParams_ne_nil (h : Plain config) :
    ∀ d ∈ (Plan.ofConfig config).domains, d.getRoute.pathParams ≠ [] := by
  intro d hd
  obtain ⟨token, htoken, rfl⟩ := List.mem_map.mp hd
  rw [Domain.pathParams_getRoute ⟨(h token htoken).2.1, (h token htoken).2.2⟩]
  simp

lemma forall₂_generate (h : Plain config) (hcaps : (config.domains.map Text.capitalize).Nodup)
    (target : Target) :
    List.Forall₂ Builds (generate (Plan.ofConfig config) target) (sizes config target) := by
  have hcaps' : ((Plan.ofConfig config).domains.map Domain.capitalized).Nodup := by
    rw [Plan.ofConfig, capitalized_domains]
    exact hcaps
  have hlength : (Plan.ofConfig config).domains.length = config.domains.length := List.length_map _
  cases target with
  | core =>
    have hslash : ∀ d ∈ (Plan.ofConfig config).domains, '/' ∉ d.token.toList := by
      intro d hd
      obtain ⟨token, htoken, rfl⟩ := List.mem_map.mp hd
      exact (h token htoken).1
    exact .cons (hlength ▸ CorePackage.builds_generate rfl hcaps' hslash) .nil
  | contracts => exact .cons (hlength ▸ ContractsPackage.builds_generate hcaps') .nil
  | adapters =>
    rw [generate, sizes, List.forall₂_map_left_iff, List.forall₂_map_right_iff]
    exact List.forall₂_same.mpr fun id _ =>
      hlength ▸ AdapterPackage.builds_generate rfl id h.pathParams_ne_nil hcaps'

lemma forall₂_flatMap {α β γ : Type} {R : β → γ → Prop} {f : α → List β} {g : α → List γ}
    (h : ∀ a, List.Forall₂ R (f a) (g a)) (items : List α) :
    List.Forall₂ R (items.flatMap f) (items.flatMap g) := by
  induction items with
  | nil => exact .nil
  | cons a rest ih => exact List.rel_append (h a) ih

lemma exists_mapM_of_builds {results : List (Except BuildFault ArtifactSet)} {expected : List (String × Nat)}
    (h : List.Forall₂ Builds results expected) : ∃ sets, results.mapM id = .ok sets ∧
      sets.map (fun s => (s.package, s.size)) = expected ∧ ∀ s ∈ sets, s.paths.Nodup := by
  induction h with
  | nil => exact ⟨[], rfl, rfl, nofun⟩
  | cons hr _ ih =>
    obtain ⟨s, hs, hexpected, hn⟩ := hr
    obtain ⟨sets, hsets, hrest, hnodup⟩ := ih
    refine ⟨s :: sets, ?_, by rw [List.map_cons, hexpected, hrest], List.forall_mem_cons.mpr ⟨hn, hnodup⟩⟩
    rw [List.mapM_cons, id, hs, ok_bind, hsets]
    rfl

lemma generate_of_repeated (h : Plain config) {pre post : List String} {token : String}
    (hd : config.domains = pre ++ token :: post) (hcaps : (pre.map Text.capitalize).Nodup)
    (hrepeated : Text.capitalize token ∈ pre.map Text.capitalize) (target : Target) :
    generate (Plan.ofConfig config) target =
      (sharedPaths config (Text.capitalize token) target).map fun e => .error (.duplicate e) := by
  have hd' : (Plan.ofConfig config).domains = pre.map Domain.mk ++ ⟨token⟩ :: post.map Domain.mk := by
    simp [Plan.ofConfig, hd]
  rw [← capitalized_domains] at hcaps hrepeated
  cases target with
  | core => exact congrArg (· :: []) (CorePackage.generate_of_repeated hd' hcaps hrepeated)
  | contracts => exact congrArg (· :: []) (ContractsPackage.generate_of_repeated hd' hcaps hrepeated)
  | adapters =>
    rw [generate, sharedPaths, List.map_map]
    exact List.map_congr_left fun id _ =>
      AdapterPackage.generate_of_repeated rfl id h.pathParams_ne_nil hd' hcaps hrepeated

lemma targets_eq_of_notMem (hcore : .core ∉ selection.targets) (hcontracts : .contracts ∉ selection.targets) :
    selection.targets = [.adapters] := by
  obtain ⟨core, contracts, adapters⟩ := selection
  revert core contracts adapters
  decide

lemma flatMap_sharedPaths_eq_nil_iff {cap : String} :
    selection.targets.flatMap (sharedPaths config cap) = [] ↔
      selection.targets = [.adapters] ∧ config.adapters = [] := by
  rw [List.flatMap_eq_nil_iff]
  constructor
  · intro hnil
    have htargets : selection.targets = [.adapters] :=
      targets_eq_of_notMem (fun h => List.cons_ne_nil _ _ (hnil _ h)) fun h => List.cons_ne_nil _ _ (hnil _ h)
    refine ⟨htargets, ?_⟩
    simpa [sharedPaths] using hnil .adapters (by simp [htargets])
  · rintro ⟨htargets, hadapters⟩ target htarget
    rw [htargets, List.mem_singleton] at htarget
    simp [htarget, sharedPaths, hadapters]

lemma build_of_repeated (selection : Selection) (h : Plain config) {pre post : List String} {token : String}
    (hd : config.domains = pre ++ token :: post) (hcaps : (pre.map Text.capitalize).Nodup)
    (hrepeated : Text.capitalize token ∈ pre.map Text.capitalize) : build config selection =
      match selection.targets.flatMap (sharedPaths config (Text.capitalize token)) with
      | [] => .ok []
      | e :: _ => .error (.duplicate e) := by
  have hresults : selection.targets.flatMap (generate (Plan.ofConfig config)) =
      (selection.targets.flatMap (sharedPaths config (Text.capitalize token))).map fun e =>
      .error (.duplicate e) := by
    rw [List.map_flatMap]
    exact List.flatMap_congr fun target _ => generate_of_repeated h hd hcaps hrepeated target
  rw [build, hresults]
  cases selection.targets.flatMap (sharedPaths config (Text.capitalize token)) <;> rfl

/--
Tokens that are single segments without braces build exactly where their capitalized forms are distinct
or nothing is built per domain. If not, the first package fails at the first form that comes twice.
-/
theorem build_plain_tokens (h : Plain config) (selection : Selection) :
    ((∃ sets, build config selection = .ok sets) ↔
      (config.domains.map Text.capitalize).Nodup ∨ selection.targets = [.adapters] ∧ config.adapters = []) ∧
    (∀ sets, build config selection = .ok sets →
      sets.map (fun s => (s.package, s.size)) = selection.targets.flatMap (sizes config) ∧
        ∀ s ∈ sets, s.paths.Nodup) ∧
    ∀ fault, build config selection = .error fault → ∃ pre token post e,
      config.domains = pre ++ token :: post ∧ (pre.map Text.capitalize).Nodup ∧
        Text.capitalize token ∈ pre.map Text.capitalize ∧
        (selection.targets.flatMap (sharedPaths config (Text.capitalize token))).head? = some e ∧
        fault = .duplicate e := by
  by_cases hcaps : (config.domains.map Text.capitalize).Nodup
  · obtain ⟨sets, hsets, hsizes, hnodup⟩ :=
      exists_mapM_of_builds (forall₂_flatMap (forall₂_generate h hcaps) selection.targets)
    have hbuild : build config selection = .ok sets := hsets
    rw [hbuild]
    refine ⟨by simp [hcaps], ?_, nofun⟩
    rintro _ ⟨⟩
    exact ⟨hsizes, hnodup⟩
  · obtain ⟨pre, token, post, hd, hpre, hrepeated⟩ := exists_first_repeated hcaps
    have hbuild := build_of_repeated selection h hd hpre hrepeated
    cases hshared : selection.targets.flatMap (sharedPaths config (Text.capitalize token)) with
    | nil =>
      rw [hshared] at hbuild
      obtain ⟨htargets, hadapters⟩ := flatMap_sharedPaths_eq_nil_iff.mp hshared
      rw [hbuild]
      refine ⟨by simp [htargets, hadapters], ?_, nofun⟩
      rintro _ ⟨⟩
      simp [htargets, sizes, hadapters]
    | cons e rest =>
      rw [hshared] at hbuild
      have hnot : ¬ (selection.targets = [.adapters] ∧ config.adapters = []) := fun hnone => by
        rw [flatMap_sharedPaths_eq_nil_iff.mpr hnone] at hshared
        cases hshared
      rw [hbuild]
      refine ⟨by simp [hcaps, hnot], nofun, ?_⟩
      rintro _ ⟨⟩
      exact ⟨pre, token, post, e, hd, hpre, hrepeated, by simp [hshared], rfl⟩

theorem build_plain_tokens_user :
    Plain { domains := ["", "index", "user", "User"], adapters := ["web", "mobile"] } ∧
      ¬ ∃ sets, build { domains := ["", "index", "user", "User"], adapters := ["web", "mobile"] }
        { contracts := true, adapters := true } = .ok sets := by
  have h : Plain { domains := ["", "index", "user", "User"], adapters := ["web", "mobile"] } := by
    unfold Plain
    decide
  refine ⟨h, fun hok => ?_⟩
  exact absurd ((build_plain_tokens h _).1.mp hok) (by decide +kernel)

def hidesParam (token : String) : Bool :=
  token.toList.head? = some '\x7d' && PathTemplate.closesAtOnce token.toList

lemma pathParams_eq_nil_iff {token : String} : (Domain.mk token).getRoute.pathParams = [] ↔
    hidesParam token := by
  rw [Domain.pathParams_getRoute_eq_nil_iff, hidesParam, Bool.and_eq_true, decide_eq_true_iff]

def faultOf (config : Config) (selection : Selection) (target : Target) : Option BuildFault :=
  if target ∈ selection.targets then (generate (Plan.ofConfig config) target).findSome? fault? else none

lemma build_eq_error_iff {fault : BuildFault} : build config selection = .error fault ↔
    (faultOf config selection .core).or
      ((faultOf config selection .contracts).or (faultOf config selection .adapters)) = some fault := by
  rw [build, mapM_id_eq_error]
  obtain ⟨core, contracts, adapters⟩ := selection
  cases core <;> cases contracts <;> cases adapters <;> simp [Selection.targets, Selection.wants,
    List.filter, faultOf]

lemma exists_generate_of_faultOf {target : Target} {fault : BuildFault}
    (h : faultOf config selection target = some fault) :
    ∃ result ∈ generate (Plan.ofConfig config) target, result = .error fault := by
  obtain ⟨-, h⟩ := Option.ite_none_right_eq_some.mp h
  obtain ⟨result, hresult, hfault⟩ := List.exists_of_findSome?_eq_some h
  exact ⟨result, hresult, fault?_eq_some.mp hfault⟩

lemma faultOf_core_eq_none_iff : faultOf config selection .core = none ↔
    (.core ∈ selection.targets → ((CorePackage.drafts (Plan.ofConfig config)).map Draft.path).Nodup) := by
  have hfault :=
    fault?_ofDrafts_eq_none_iff PackageName.core (CorePackage.rendered_drafts (Plan.ofConfig config))
  rw [← hfault]
  simp [faultOf, generate, CorePackage.generate]

lemma faultOf_contracts_eq_none_iff : faultOf config selection .contracts = none ↔
    (.contracts ∈ selection.targets → (config.domains.map Text.capitalize).Nodup) := by
  have hnodup : ((ContractsPackage.drafts (Plan.ofConfig config)).map Draft.path).Nodup ↔
      (config.domains.map Text.capitalize).Nodup := by
    rw [← capitalized_domains]
    exact ⟨ContractsPackage.nodup_capitalized, fun hcaps => ContractsPackage.nodup_drafts hcaps⟩
  have hfault :=
    fault?_ofDrafts_eq_none_iff PackageName.contracts
      (ContractsPackage.rendered_drafts (Plan.ofConfig config))
  rw [← hnodup, ← hfault]
  simp [faultOf, generate, ContractsPackage.generate]

lemma exists_duplicate_of_faultOf {target : Target} (htarget : target ≠ .adapters) {fault : BuildFault}
    (h : faultOf config selection target = some fault) : ∃ e, fault = .duplicate e := by
  obtain ⟨result, hresult, hfault⟩ := exists_generate_of_faultOf h
  cases target with
  | core =>
    rw [List.mem_singleton.mp hresult] at hfault
    exact exists_duplicate_of_rendered (CorePackage.rendered_drafts _) hfault
  | contracts =>
    rw [List.mem_singleton.mp hresult] at hfault
    exact exists_duplicate_of_rendered (ContractsPackage.rendered_drafts _) hfault
  | adapters => exact absurd rfl htarget

def HidesFirst (tokens : List String) : Prop :=
  ∃ pre token post, tokens = pre ++ token :: post ∧ (pre.map Text.capitalize).Nodup ∧
    (∀ t ∈ pre, hidesParam t = false) ∧ hidesParam token

lemma generate_adapter_eq_template_iff {adapterId : String} {fault : Template.Fault} :
    AdapterPackage.generate (Plan.ofConfig config) adapterId = .error (.template fault) ↔
      fault = Template.emptyList ∧ HidesFirst config.domains := by
  rw [AdapterPackage.generate_eq_template_iff rfl]
  refine and_congr_right fun _ => ?_
  constructor
  · rintro ⟨pre, d, post, hd, hcaps, hpre, hparams⟩
    obtain ⟨tokens, rest, hdomains, rfl, hrest⟩ := List.map_eq_append_iff.mp hd
    obtain ⟨token, post, rfl, rfl, rfl⟩ := List.map_eq_cons_iff.mp hrest
    rw [capitalized_domains] at hcaps
    refine ⟨tokens, token, post, hdomains, hcaps, fun t ht => ?_, pathParams_eq_nil_iff.mp hparams⟩
    simpa [pathParams_eq_nil_iff] using hpre ⟨t⟩ (List.mem_map_of_mem ht)
  · rintro ⟨pre, token, post, hd, hcaps, hpre, htoken⟩
    refine ⟨pre.map Domain.mk, ⟨token⟩, post.map Domain.mk, by simp [Plan.ofConfig, hd], ?_, fun d hd => ?_,
      pathParams_eq_nil_iff.mpr htoken⟩
    · rwa [capitalized_domains]
    · obtain ⟨t, ht, rfl⟩ := List.mem_map.mp hd
      simp [pathParams_eq_nil_iff, hpre t ht]

lemma faultOf_adapters_eq_template_iff {fault : Template.Fault} :
    faultOf config selection .adapters = some (.template fault) ↔
      fault = Template.emptyList ∧ .adapters ∈ selection.targets ∧ config.adapters ≠ [] ∧
      HidesFirst config.domains := by
  constructor
  · intro h
    have hselected := (Option.ite_none_right_eq_some.mp h).1
    obtain ⟨result, hresult, hfault⟩ := exists_generate_of_faultOf h
    obtain ⟨id, hid, rfl⟩ := List.mem_map.mp hresult
    obtain ⟨rfl, hides⟩ := generate_adapter_eq_template_iff.mp hfault
    exact ⟨rfl, hselected, List.ne_nil_of_mem hid, hides⟩
  · rintro ⟨rfl, hselected, hadapters, hides⟩
    obtain ⟨id, rest, hids⟩ := List.exists_cons_of_ne_nil hadapters
    rw [faultOf, if_pos hselected, generate, Plan.ofConfig, hids, List.map_cons, List.findSome?_cons]
    rw [← Plan.ofConfig, generate_adapter_eq_template_iff.mpr ⟨rfl, hides⟩]
    rfl

/--
A build fails on a duplicate path or because a template asks for the first of no path parameters.
The latter is so exactly where an adapter is built, nothing before it is at fault, and a token hides
its parameter.
-/
theorem build_eq_template_iff (config : Config) (selection : Selection) :
    (∀ fault, build config selection = .error fault →
      (∃ e, fault = .duplicate e) ∨ fault = .template Template.emptyList) ∧
    (build config selection = .error (.template Template.emptyList) ↔
      .adapters ∈ selection.targets ∧ config.adapters ≠ [] ∧
      (.core ∈ selection.targets → ((CorePackage.drafts (Plan.ofConfig config)).map Draft.path).Nodup) ∧
      (.contracts ∈ selection.targets → (config.domains.map Text.capitalize).Nodup) ∧
      HidesFirst config.domains) := by
  have hcore : ∀ fault, faultOf config selection .core = some fault → ∃ e, fault = .duplicate e :=
    fun _ => exists_duplicate_of_faultOf (by decide)
  have hcontracts : ∀ fault, faultOf config selection .contracts = some fault → ∃ e, fault = .duplicate e :=
    fun _ => exists_duplicate_of_faultOf (by decide)
  constructor
  · intro fault hfault
    rw [build_eq_error_iff, Option.or_eq_some_iff, Option.or_eq_some_iff] at hfault
    rcases hfault with h | ⟨-, h | ⟨-, h⟩⟩
    · exact .inl (hcore fault h)
    · exact .inl (hcontracts fault h)
    · cases fault with
      | duplicate e => exact .inl ⟨e, rfl⟩
      | template f => exact .inr (congrArg _ (faultOf_adapters_eq_template_iff.mp h).1)
  · rw [build_eq_error_iff, Option.or_eq_some_iff, Option.or_eq_some_iff, faultOf_core_eq_none_iff,
      faultOf_contracts_eq_none_iff, faultOf_adapters_eq_template_iff]
    have hcore' : faultOf config selection .core ≠ some (.template Template.emptyList) := fun h => by
      obtain ⟨e, he⟩ := hcore _ h
      cases he
    have hcontracts' : faultOf config selection .contracts ≠ some (.template Template.emptyList) :=
      fun h => by
      obtain ⟨e, he⟩ := hcontracts _ h
      cases he
    tauto

/-- The item path of the token `}` is `/}s/{}Id}`. -/
theorem build_closing_brace : build { domains := ["\x7d"], adapters := ["web"] } { adapters := true } =
    .error (.template Template.emptyList) := by
  have hides : HidesFirst ["\x7d"] := ⟨[], "\x7d", [], rfl, List.nodup_nil, nofun, by decide⟩
  rw [build_eq_error_iff, faultOf_core_eq_none_iff.mpr (by decide),
    faultOf_contracts_eq_none_iff.mpr (by decide),
    faultOf_adapters_eq_template_iff.mpr ⟨rfl, by decide, by decide, hides⟩]
  rfl

end ApiScaffold.Run
