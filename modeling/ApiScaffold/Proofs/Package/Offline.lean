import ApiScaffold.Proofs.Api.Spelling
import ApiScaffold.Proofs.Numeric.Digits
import ApiScaffold.Proofs.Package.Adapter
import ApiScaffold.Proofs.Template.Reading
import Mathlib.Data.List.Basic

namespace ApiScaffold

open Template Text Chain

namespace Offline

variable {domains : List Domain} {operation : String} {ttl : Nat}

lemma policies_ofDomains (hcaps : (domains.map Domain.capitalized).Nodup) :
    policies (RouteTable.ofDomains domains) =
      (RouteTable.ofDomains domains).map fun r => (r.operationId, Policy.ofKind r.kind) := by
  refine Assoc.ofList_of_nodup ?_
  rw [List.map_map]
  exact RouteTable.nodup_operationIds hcaps

lemma keys_policies (hcaps : (domains.map Domain.capitalized).Nodup) :
    (policies (RouteTable.ofDomains domains)).map Prod.fst =
      RouteTable.operationIds (RouteTable.ofDomains domains) := by
  rw [policies_ofDomains hcaps, List.map_map]
  rfl

lemma policyOf_eq_iff (hcaps : (domains.map Domain.capitalized).Nodup) {policy : Policy}
    (hpolicy : policy ≠ .none) :
    policyOf operation (RouteTable.ofDomains domains) = policy ↔
      (operation, policy) ∈ policies (RouteTable.ofDomains domains) := by
  have hn := RouteTable.nodup_operationIds hcaps
  rw [← keys_policies hcaps] at hn
  rw [policyOf]
  constructor
  · intro h
    by_cases hmem : operation ∈ (policies (RouteTable.ofDomains domains)).map Prod.fst
    · obtain ⟨⟨_, found⟩, hfound, rfl⟩ := List.mem_map.mp hmem
      rw [Assoc.get?_of_mem hn hfound] at h
      exact h ▸ hfound
    · rw [Assoc.get?_of_notMem hmem] at h
      exact absurd h.symm hpolicy
  · intro h
    rw [Assoc.get?_of_mem hn h, Option.getD_some]

lemma flags_eq_iff {routes : List Route} (now : Instant) :
    flags operation routes now =
      .map [("cacheable", .bool true), ("ttl", .int ttl), ("version", .int now.version)] ↔
        policyOf operation routes = .cached ttl := by
  rw [flags]
  split
  · rename_i found hfound
    rw [hfound, Policy.cached.injEq, ← Int.natCast_inj]
    simp
  · rename_i hfound
    constructor
    · intro h
      simp [notCached] at h
    · intro h
      exact absurd h (hfound ttl)

lemma canQueue_iff {routes : List Route} : canQueue operation routes ↔
    policyOf operation routes = .queued := by
  rw [canQueue]
  cases policyOf operation routes <;> simp [Policy.queueable]

def cached (routes : List Route) : List (String × Nat) :=
  ((policies routes).filter (·.2.cacheable)).map fun entry => (entry.1, entry.2.ttl)

def queued (routes : List Route) : List String := ((policies routes).filter (·.2.queueable)).map Prod.fst

variable {routes : List Route}

lemma mem_cached : (operation, ttl) ∈ cached routes ↔ (operation, .cached ttl) ∈ policies routes := by
  rw [cached, List.mem_map]
  constructor
  · rintro ⟨⟨name, policy⟩, hentry, heq⟩
    obtain ⟨hmem, hcacheable⟩ := List.mem_filter.mp hentry
    cases policy with
    | cached found =>
      cases heq
      exact hmem
    | _ => cases hcacheable
  · intro h
    exact ⟨_, List.mem_filter.mpr ⟨h, rfl⟩, rfl⟩

lemma mem_queued : operation ∈ queued routes ↔ (operation, .queued) ∈ policies routes := by
  rw [queued, List.mem_map]
  constructor
  · rintro ⟨⟨name, policy⟩, hentry, rfl⟩
    obtain ⟨hmem, hqueueable⟩ := List.mem_filter.mp hentry
    cases policy with
    | queued => exact hmem
    | _ => cases hqueueable
  · intro h
    exact ⟨_, List.mem_filter.mpr ⟨h, rfl⟩, rfl⟩

lemma cached_sublist (hcaps : (domains.map Domain.capitalized).Nodup) :
    ((cached (RouteTable.ofDomains domains)).map Prod.fst).Sublist
      (RouteTable.operationIds (RouteTable.ofDomains domains)) := by
  rw [cached, List.map_map, ← keys_policies hcaps]
  exact List.filter_sublist.map _

lemma queued_sublist (hcaps : (domains.map Domain.capitalized).Nodup) :
    (queued (RouteTable.ofDomains domains)).Sublist
      (RouteTable.operationIds (RouteTable.ofDomains domains)) := by
  rw [queued, ← keys_policies hcaps]
  exact List.filter_sublist.map _

lemma cached_append_queued (hcaps : (domains.map Domain.capitalized).Nodup) :
    ((cached (RouteTable.ofDomains domains)).map Prod.fst ++ queued (RouteTable.ofDomains domains)).Perm
      (RouteTable.operationIds (RouteTable.ofDomains domains)) := by
  have heither : ∀ entry ∈ policies (RouteTable.ofDomains domains),
      entry.2.queueable = !entry.2.cacheable := by
    intro entry hentry
    rw [policies_ofDomains hcaps] at hentry
    obtain ⟨r, -, rfl⟩ := List.mem_map.mp hentry
    cases r.kind <;> rfl
  rw [cached, queued, List.filter_congr heither, List.map_map, ← keys_policies hcaps]
  have hperm :=
    (List.filter_append_perm (fun entry => entry.2.cacheable) (policies (RouteTable.ofDomains domains))).map
      Prod.fst
  rwa [List.map_append] at hperm

def block (opening closing : List Char) (source : String) : List (List Char) :=
  (((lines source).dropWhile (· ≠ opening)).drop 1).takeWhile (· ≠ closing)

def cacheOpening : List Char := "const CACHE_TTL: Partial<Record<OperationId, number>> = \x7b".toList

def queueOpening : List Char := "const QUEUEABLE_OPERATIONS = new Set<OperationId>([".toList

def cacheTable (source : String) : List (List Char) := block cacheOpening "\x7d;".toList source

def queueTable (source : String) : List (List Char) := block queueOpening "]);".toList source

def cacheLine (operation : String) (ttl : Nat) : List Char :=
  ("  " ++ operation ++ ": " ++ toString ttl ++ ",").toList

def queueLine (operation : String) : List Char := ("  '" ++ operation ++ "',").toList

lemma block_append {opening closing : List Char} {before body after : List (List Char)} {source : String}
    (h : lines source = before ++ opening :: (body ++ closing :: after)) (hopening : opening ∉ before)
    (hclosing : closing ∉ body) : block opening closing source = body := by
  have hbefore : ∀ l ∈ before, decide (l ≠ opening) :=
    fun l hl => decide_eq_true fun heq => hopening (heq ▸ hl)
  have hbody : ∀ l ∈ body, decide (l ≠ closing) := fun l hl => decide_eq_true fun heq => hclosing (heq ▸ hl)
  rw [block, h, List.dropWhile_append_of_pos hbefore, List.dropWhile_cons_of_neg (by simp),
    List.drop_one, List.tail_cons,
    List.takeWhile_append_of_pos hbody, List.takeWhile_cons_of_neg (by simp), List.append_nil]

lemma toList_cacheLine (operation : String) (ttl : Nat) : cacheLine operation ttl =
    ' ' :: ' ' :: (operation.toList ++ ':' :: ' ' :: (Nat.toDigits 10 ttl ++ [','])) := by
  simp [cacheLine]

lemma toList_queueLine (operation : String) : queueLine operation =
    ' ' :: ' ' :: '\'' :: (operation.toList ++ ['\'', ',']) := by
  simp [queueLine]

lemma cacheLine_inj {other : String} {n : Nat} (h : isWord operation.toList) :
    cacheLine operation ttl = cacheLine other n ↔ operation = other ∧ ttl = n := by
  constructor
  · intro heq
    rw [toList_cacheLine, toList_cacheLine, List.cons.injEq, List.cons.injEq] at heq
    have hword : ':' ∉ operation.toList := notMem_of_isWord (by decide) h
    have hrest : ':' ∉ ' ' :: (Nat.toDigits 10 ttl ++ [',']) := by
      simp [notMem_toDigits (c := ':') (by decide) ttl]
    obtain ⟨hname, -, hdigits⟩ := (List.append_cons_inj_of_notMem hword hrest).mp heq.2.2
    rw [List.cons.injEq, List.append_cancel_right_eq] at hdigits
    exact ⟨String.toList_inj.mp hname, by rw [← digitsValue_toDigits ttl, hdigits.2, digitsValue_toDigits]⟩
  · rintro ⟨rfl, rfl⟩
    rfl

lemma queueLine_inj {other : String} : queueLine operation = queueLine other ↔ operation = other := by
  simp [toList_queueLine, ← String.toList_inj]

end Offline

namespace AdapterPackage

open Offline

variable {plan : Plan} {adapterId : String} {profile : Profile} {domains : List Domain}

def cacheBody : List Node :=
  [.text "  ", name "operation_id", .text ": ", field "policy" ["ttl"], .text ",\n"]

def queueBody : List Node := [.text "  '", name "operation_id", .text "',\n"]

def table (property : String) (body : List Node) : Node :=
  .forEntries "operation_id" "policy" (var "cache_policy") (.path "policy" [property]) body

def offlineTables : List Node := Template.Adapter.offline.take 20 ++
  (.text "const CACHE_TTL: Partial<Record<OperationId, number>> = \x7b\n" :: table "cacheable" cacheBody ::
    .text "\x7d;\n" :: .text "\n" :: .text "const QUEUEABLE_OPERATIONS = new Set<OperationId>([\n" ::
    table "queueable" queueBody :: [.text "]);\n"])

lemma offlineTemplate_eq : Template.Adapter.offline = offlineTables ++ Template.Adapter.offline.drop 27 := rfl

variable {scope : Scope}

lemma exists_reads_texts (scope : Scope) {nodes : List Node} (openings : List (List Char))
    (h : (textLines nodes).any fun ls => openings.all fun opening => !ls.contains opening) :
    ∃ ls, Reads some scope nodes ls ∧ ∀ opening ∈ openings, opening ∉ ls := by
  obtain ⟨ls, hls, hall⟩ := (Option.any_eq_true ..).mp h
  exact ⟨ls, .texts hls, by simpa using hall⟩

section

variable (plan : Plan) (profile : Profile)

lemma exists_reads_offlineLead (hid : isWord adapterId.toList) :
    ∃ ls, Reads some (.ofContext (context plan adapterId profile)) (Template.Adapter.offline.take 20) ls ∧
      ∀ opening ∈ [cacheOpening, queueOpening], opening ∉ ls := by
  obtain ⟨before, hbefore, hbeforeOpening⟩ : ∃ ls, Reads some (.ofContext (context plan adapterId profile))
      (Template.Adapter.offline.take 3) ls ∧ ∀ opening ∈ [cacheOpening, queueOpening], opening ∉ ls :=
    exists_reads_texts _ _ (by decide)
  obtain ⟨after, hafter, hafterOpening⟩ : ∃ ls, Reads some (.ofContext (context plan adapterId profile))
      ((Template.Adapter.offline.drop 6).take 14) ls ∧
      ∀ opening ∈ [cacheOpening, queueOpening], opening ∉ ls :=
    exists_reads_texts _ _ (by decide)
  have hid' : (var "adapter_id").data (.ofContext (context plan adapterId profile)) =
      .ok (.string adapterId) := rfl
  have hrender : renderNodes (.ofContext (context plan adapterId profile))
      [.text " * Offline support for the ", name "adapter_id", .text " adapter\n"] =
        .ok (" * Offline support for the " ++ (adapterId ++ " adapter\n")) := by
    simp [renderNodes, name, hid']
  have hname : Reads some (.ofContext (context plan adapterId profile))
      ((Template.Adapter.offline.drop 3).take 3)
      [" * Offline support for the ".toList ++ (adapterId.toList ++ " adapter".toList)] := by
    refine .line hrender (by simp) ?_ rfl
    simp [notMem_of_isWord (c := '\n') (by decide) hid]
  refine ⟨before ++ (_ ++ after), .append rfl hbefore (.append rfl hname hafter), fun opening hopening => ?_⟩
  have hother : opening ≠ " * Offline support for the ".toList ++
      (adapterId.toList ++ " adapter".toList) := by
    have hclash : clash opening " * Offline support for the ".toList := by
      revert opening
      decide
    exact fun heq => not_prefix_of_clash hclash ⟨_, heq.symm⟩
  simp only [List.mem_append, List.mem_singleton, not_or]
  exact ⟨hbeforeOpening opening hopening, hother, hafterOpening opening hopening⟩

end

def entryScope (scope : Scope) (entry : String × Policy) : Scope :=
  (scope.bind "operation_id" (.string entry.1)).bind "policy" (policyData entry.2)

lemma reads_cacheBody (scope : Scope) {entry : String × Policy} (h : isWord entry.1.toList) :
    Reads some (entryScope scope entry) cacheBody [cacheLine entry.1 entry.2.ttl] := by
  have hname : (var "operation_id").data (entryScope scope entry) = .ok (.string entry.1) := rfl
  have httl : (Expr.path "policy" ["ttl"]).data (entryScope scope entry) = .ok (.int entry.2.ttl) := rfl
  have hrender : renderNodes (entryScope scope entry) cacheBody =
      .ok ("  " ++ (entry.1 ++ (": " ++ (toString (entry.2.ttl : Int) ++ ",\n")))) := by
    simp [cacheBody, renderNodes, name, field, hname, httl, Data.display, Data.inspect]
  have hword : '\n' ∉ entry.1.toList := notMem_of_isWord (by decide) h
  have hdigits : '\n' ∉ Nat.toDigits 10 entry.2.ttl := notMem_toDigits (by decide) entry.2.ttl
  have hdecimal : (toString (entry.2.ttl : Int)).toList = Nat.toDigits 10 entry.2.ttl := Nat.toList_repr
  refine .line hrender ?_ ?_ rfl
  · simp only [toList_cacheLine, String.toList_append, hdecimal]
    simp
  · simp [toList_cacheLine, hword, hdigits]

lemma reads_queueBody (scope : Scope) {entry : String × Policy} (h : isWord entry.1.toList) :
    Reads some (entryScope scope entry) queueBody [queueLine entry.1] := by
  have hname : (var "operation_id").data (entryScope scope entry) = .ok (.string entry.1) := rfl
  have hrender : renderNodes (entryScope scope entry) queueBody = .ok ("  '" ++ (entry.1 ++ "',\n")) := by
    simp [queueBody, renderNodes, name, hname]
  have hword : '\n' ∉ entry.1.toList := notMem_of_isWord (by decide) h
  refine .line hrender ?_ ?_ rfl
  · simp [toList_queueLine]
  · simp [toList_queueLine, hword]

lemma reads_table {entries : List (String × Policy)} (property : String) {body : List Node}
    {line : String × Policy → List Char} (keep : Policy → Bool)
    (hentries : (var "cache_policy").data scope =
      .ok (.map (entries.map fun entry => (entry.1, policyData entry.2))))
    (hproperty : ∀ entry, (Expr.path "policy" [property]).data (entryScope scope entry) =
      .ok (.bool (keep entry.2)))
    (hbody : ∀ entry ∈ entries, Reads some (entryScope scope entry) body [line entry]) :
    Reads some scope [table property body] ((entries.filter (keep ·.2)).map line) := by
  have htable : Reads some scope [table property body]
      ((entries.filter (keep ·.2)).flatMap (fun entry => [line entry]) ++ []) :=
    .forEntries keep hentries (fun entry _ => ⟨_, hproperty entry, rfl⟩) hbody .nil
  rwa [← List.map_eq_flatMap, List.append_nil] at htable

lemma exists_reads_offline (hid : isWord adapterId.toList)
    (hwords : ∀ entry ∈ policies plan.routes, isWord entry.1.toList)
    (profile : Profile) : ∃ before, (∀ opening ∈ [cacheOpening, queueOpening], opening ∉ before) ∧
      Reads some (.ofContext (context plan adapterId profile)) offlineTables
        (before ++ (cacheOpening :: ((cached plan.routes).map (fun entry => cacheLine entry.1 entry.2) ++
          "\x7d;".toList :: [] :: queueOpening ::
            ((queued plan.routes).map queueLine ++ ["]);".toList])))) := by
  obtain ⟨before, hbefore, hopening⟩ := exists_reads_offlineLead plan profile hid
  have hentries : (var "cache_policy").data (.ofContext (context plan adapterId profile)) =
      .ok (.map ((policies plan.routes).map fun entry => (entry.1, policyData entry.2))) := rfl
  have hcache := reads_table "cacheable" Policy.cacheable hentries (fun entry => rfl) fun entry hentry =>
    reads_cacheBody _ (hwords entry hentry)
  have hqueue := reads_table "queueable" Policy.queueable hentries (fun entry => rfl) fun entry hentry =>
    reads_queueBody _ (hwords entry hentry)
  refine ⟨before, hopening, .append rfl hbefore (.text rfl rfl rfl ?_)⟩
  rw [cached, queued, List.map_map, List.map_map]
  exact .append rfl hcache (.text rfl rfl rfl (.text rfl rfl rfl (.text rfl rfl rfl
    (.append rfl hqueue (.text rfl rfl rfl .nil)))))

lemma tables_offline (hid : isWord adapterId.toList)
    (hwords : ∀ entry ∈ policies plan.routes, isWord entry.1.toList) {source : String}
    (hrender : renderNodes (.ofContext (context plan adapterId profile)) Template.Adapter.offline =
      .ok source) :
    cacheTable source = (cached plan.routes).map (fun entry => cacheLine entry.1 entry.2) ∧
      queueTable source = (queued plan.routes).map queueLine := by
  obtain ⟨before, hbefore, hreads⟩ := exists_reads_offline hid hwords profile
  rw [offlineTemplate_eq] at hrender
  obtain ⟨after, hafter⟩ := exists_lines_of_reads rfl hreads hrender
  have hlines : lines source = before ++
      (cacheOpening :: ((cached plan.routes).map (fun entry => cacheLine entry.1 entry.2) ++
        "\x7d;".toList :: [] :: queueOpening ::
      ((queued plan.routes).map queueLine ++ "]);".toList :: after))) := by
    rw [hafter]
    simp
  -- The lines of the tables are indented, those around them are not.
  have hcacheLine : ∀ line ∈ (cached plan.routes).map fun entry => cacheLine entry.1 entry.2,
      line.head? = some ' ' := by
    intro line hline
    obtain ⟨entry, -, rfl⟩ := List.mem_map.mp hline
    rw [toList_cacheLine, List.head?_cons]
  have hqueueLine : ∀ line ∈ (queued plan.routes).map queueLine, line.head? = some ' ' := by
    intro line hline
    obtain ⟨operation, -, rfl⟩ := List.mem_map.mp hline
    rw [toList_queueLine, List.head?_cons]
  constructor
  · exact block_append hlines (hbefore _ (by simp)) fun hmem => absurd (hcacheLine _ hmem) (by decide)
  · have hqueue : lines source =
        (before ++ (cacheOpening :: ((cached plan.routes).map (fun entry => cacheLine entry.1 entry.2) ++
        ["\x7d;".toList, []]))) ++ queueOpening ::
          ((queued plan.routes).map queueLine ++ "]);".toList :: after) := by
      rw [hlines]
      simp
    refine block_append hqueue ?_ fun hmem => absurd (hqueueLine _ hmem) (by decide)
    simp only [List.mem_append, List.mem_cons, not_or]
    exact ⟨hbefore _ (by simp), by decide, fun hmem => absurd (hcacheLine _ hmem) (by decide),
      by decide, by decide, List.not_mem_nil⟩

end AdapterPackage

namespace Offline

structure Tables (routes : List Route) (source : String) (cached : List (String × Nat))
    (queued : List String) : Prop where
  cacheLines : cacheTable source = cached.map fun entry => cacheLine entry.1 entry.2
  queueLines : queueTable source = queued.map queueLine
  cache_iff : ∀ operation ttl now, cacheLine operation ttl ∈ cacheTable source ↔ flags operation routes now =
    .map [("cacheable", .bool true), ("ttl", .int ttl), ("version", .int now.version)]
  queue_iff : ∀ operation, queueLine operation ∈ queueTable source ↔ canQueue operation routes
  cacheOrder : (cached.map Prod.fst).Sublist (RouteTable.operationIds routes)
  queueOrder : queued.Sublist (RouteTable.operationIds routes)
  nodup : (RouteTable.operationIds routes).Nodup
  disjoint : (cached.map Prod.fst).Disjoint queued
  complete : (cached.map Prod.fst ++ queued).Perm (RouteTable.operationIds routes)

lemma tables_ofDomains {source : String} (hcaps : (domains.map Domain.capitalized).Nodup)
    (hwords : ∀ entry ∈ policies (RouteTable.ofDomains domains), isWord entry.1.toList)
    (hcache : cacheTable source = (cached (RouteTable.ofDomains domains)).map fun entry =>
      cacheLine entry.1 entry.2)
    (hqueue : queueTable source = (queued (RouteTable.ofDomains domains)).map queueLine) :
    Tables (RouteTable.ofDomains domains) source (cached (RouteTable.ofDomains domains))
      (queued (RouteTable.ofDomains domains)) where
  cacheLines := hcache
  queueLines := hqueue
  cache_iff operation ttl now := by
    rw [flags_eq_iff, policyOf_eq_iff hcaps (by simp), ← mem_cached, hcache, List.mem_map]
    constructor
    · rintro ⟨⟨other, n⟩, hmem, heq⟩
      obtain ⟨rfl, rfl⟩ := (cacheLine_inj (hwords _ (mem_cached.mp hmem))).mp heq
      exact hmem
    · exact fun hmem => ⟨_, hmem, rfl⟩
  queue_iff operation := by
    rw [canQueue_iff, policyOf_eq_iff hcaps (by simp), ← mem_queued, hqueue, List.mem_map]
    constructor
    · rintro ⟨other, hmem, heq⟩
      exact queueLine_inj.mp heq ▸ hmem
    · exact fun hmem => ⟨_, hmem, rfl⟩
  cacheOrder := cached_sublist hcaps
  queueOrder := queued_sublist hcaps
  nodup := RouteTable.nodup_operationIds hcaps
  disjoint := by
    have hn := (cached_append_queued hcaps).nodup_iff.mpr (RouteTable.nodup_operationIds hcaps)
    exact List.disjoint_of_nodup_append hn
  complete := cached_append_queued hcaps

end Offline

namespace AdapterPackage

def offlineDraft (plan : Plan) : Draft :=
  .ofTemplate "src/extensions/offline.ts" Template.Adapter.offline
    (context plan "mobile" (Profile.resolve "mobile"))

/-- The tables agree with the policies, for operations with a route and for all others. -/
theorem offline_tables (config : Config) (htokens : ∀ token ∈ config.domains, isIdentifier token)
    (hcaps : (config.domains.map capitalize).Nodup) : ∃ s source cached queued,
      generate (Plan.ofConfig config) "mobile" = .ok s ∧ s.get "src/extensions/offline.ts" = .ok source ∧
        Offline.Tables (Plan.ofConfig config).routes source cached queued := by
  have hr : (Plan.ofConfig config).routes = RouteTable.ofDomains (Plan.ofConfig config).domains := rfl
  have hwords := Plan.forall_domains_ofConfig fun token htoken =>
    isWord_of_isIdentifier (htokens token htoken)
  rw [← Plan.capitalized_ofConfig] at hcaps
  have hparams : ∀ d ∈ (Plan.ofConfig config).domains, d.getRoute.pathParams ≠ [] :=
    fun d hd => Domain.pathParams_getRoute_ne_nil (hwords d hd)
  have hgenerate := generate_eq_ok hr "mobile" hparams hcaps
  have hmem : offlineDraft (Plan.ofConfig config) ∈
      drafts (Plan.ofConfig config) "mobile" (Profile.resolve "mobile") := by
    have hoffline : (Profile.resolve "mobile").offline = true := by decide
    simp [drafts, hoffline, offlineDraft]
  have hget := ArtifactSet.get_ofDrafts (nodup_drafts "mobile" (Profile.resolve "mobile") hcaps) hmem
    (PackageName.adapter "mobile")
  have hfits := fits_context true true "mobile" (fun _ => by decide) (fun d hd _ => hwords d hd) hr
    (Profile.resolve "mobile")
  have hrender : renderNodes (.ofContext (context (Plan.ofConfig config) "mobile" (Profile.resolve "mobile")))
      Template.Adapter.offline = .ok (offlineDraft (Plan.ofConfig config)).artifact.content := by
    rw [← hfits.render (by decide)]
    exact Draft.content_of_rendered (rendered_drafts hr "mobile" (Profile.resolve "mobile") hparams _ hmem)
  have hentries : ∀ entry ∈ Offline.policies (Plan.ofConfig config).routes, isWord entry.1.toList := by
    intro entry hentry
    obtain ⟨r, hroute, hr⟩ := exists_of_mem_policies hentry
    obtain ⟨d, hd, hroute⟩ := RouteTable.mem_ofDomains.mp hroute
    rw [← hr]
    exact Domain.isWord_operationId (hwords d hd) hroute
  obtain ⟨hcache, hqueue⟩ := tables_offline (by decide) hentries hrender
  exact ⟨_, _, _, _, hgenerate, hget, Offline.tables_ofDomains hcaps hentries hcache hqueue⟩

theorem offline_tables_user : (∀ token ∈ ["user", "_item2"], isIdentifier token) ∧
    (["user", "_item2"].map capitalize).Nodup ∧
    ∃ s source cached queued, generate (Plan.ofConfig { domains := ["user", "_item2"] }) "mobile" = .ok s ∧
      s.get "src/extensions/offline.ts" = .ok source ∧
        Offline.Tables (Plan.ofConfig { domains := ["user", "_item2"] }).routes source cached queued :=
  ⟨by decide, by decide, offline_tables { domains := ["user", "_item2"] } (by decide) (by decide)⟩

end AdapterPackage

end ApiScaffold
