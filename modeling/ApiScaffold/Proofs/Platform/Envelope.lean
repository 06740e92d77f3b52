import ApiScaffold.Platform.Offline
import ApiScaffold.Proofs.Api.RouteTable
import ApiScaffold.Proofs.Assoc
import ApiScaffold.Proofs.Package.Paths

namespace ApiScaffold

namespace RouteTable

variable {domains others : List Domain} {r s : Route}

lemma clash_name {k l : RouteKind} (h : k ≠ l) : Text.clash k.name.toList l.name.toList := by
  revert h
  cases k <;> cases l <;> decide

lemma exists_operationId_eq (hr : r ∈ ofDomains domains) : ∃ rest, r.operationId = r.kind.name ++ rest := by
  obtain ⟨d, -, hd⟩ := mem_ofDomains.mp hr
  rcases Domain.eq_of_mem_routes hd with rfl | rfl | rfl
  · exact ⟨d.pluralCapitalized, rfl⟩
  · exact ⟨d.capitalized, rfl⟩
  · exact ⟨d.capitalized, rfl⟩

lemma kind_eq_of_operationId_eq (hr : r ∈ ofDomains domains) (hs : s ∈ ofDomains others)
    (h : r.operationId = s.operationId) : r.kind = s.kind := by
  obtain ⟨rest, hrest⟩ := exists_operationId_eq hr
  obtain ⟨more, hmore⟩ := exists_operationId_eq hs
  rw [hrest, hmore] at h
  exact Decidable.of_not_not fun hne => ne_of_clash (clash_name hne) rest more h

end RouteTable

namespace Offline

variable {domains others : List Domain} {routes : List Route} {operation : String} {now : Instant} {r : Route}

lemma policyOf_eq (operation : String) (routes : List Route) : policyOf operation routes =
    (((routes.filter fun r => r.operationId = operation).getLast?).map fun r =>
      Policy.ofKind r.kind).getD .none := by
  rw [policyOf, policies, Assoc.get?_ofList, List.filter_map, List.getLast?_map, Option.map_map]
  rfl

lemma policyOf_of_mem (hr : r ∈ RouteTable.ofDomains domains) :
    policyOf r.operationId (RouteTable.ofDomains domains) = Policy.ofKind r.kind := by
  rw [policyOf_eq]
  cases hlast : ((RouteTable.ofDomains domains).filter fun s => s.operationId = r.operationId).getLast? with
  | none =>
    have hmem : r ∈ (RouteTable.ofDomains domains).filter fun s => s.operationId = r.operationId :=
      List.mem_filter.mpr ⟨hr, decide_eq_true rfl⟩
    rw [List.getLast?_eq_none_iff.mp hlast] at hmem
    cases hmem
  | some last =>
    obtain ⟨hmem, hsame⟩ := List.mem_filter.mp (List.mem_of_getLast? hlast)
    have hkind := RouteTable.kind_eq_of_operationId_eq hmem hr (of_decide_eq_true hsame)
    rw [Option.map_some, Option.getD_some, hkind]

lemma policyOf_of_notMem (h : operation ∉ RouteTable.operationIds routes) :
    policyOf operation routes = .none := by
  have hnone : (routes.filter fun r => r.operationId = operation) = [] := by
    refine List.filter_eq_nil_iff.mpr fun r hr hsame => h ?_
    rw [← of_decide_eq_true hsame]
    exact List.mem_map_of_mem hr
  rw [policyOf_eq, hnone]
  rfl

lemma policyOf_congr (h : operation ∈ RouteTable.operationIds (RouteTable.ofDomains domains))
    (hother : operation ∈ RouteTable.operationIds (RouteTable.ofDomains others)) :
    policyOf operation (RouteTable.ofDomains others) = policyOf operation (RouteTable.ofDomains domains) := by
  obtain ⟨r, hr, rfl⟩ := List.mem_map.mp h
  obtain ⟨s, hs, hsame⟩ := List.mem_map.mp hother
  rw [policyOf_of_mem hr, ← hsame, policyOf_of_mem hs, RouteTable.kind_eq_of_operationId_eq hs hr hsame]

lemma flags_congr {table : List Route} (h : policyOf operation table = policyOf operation routes) :
    flags operation table now = flags operation routes now := by
  rw [flags, flags, h]

lemma flags_eq_notCached_iff : flags operation routes now = notCached ↔
    (policyOf operation routes).cacheable = false := by
  rw [flags]
  cases policyOf operation routes <;> simp [notCached, Policy.cacheable]

lemma cacheable_iff : (policyOf operation (RouteTable.ofDomains domains)).cacheable = true ↔
    ∃ r ∈ RouteTable.ofDomains domains, r.operationId = operation ∧ r.kind ≠ .create := by
  constructor
  · intro h
    by_cases hmem : operation ∈ RouteTable.operationIds (RouteTable.ofDomains domains)
    · obtain ⟨r, hr, rfl⟩ := List.mem_map.mp hmem
      rw [policyOf_of_mem hr] at h
      refine ⟨r, hr, rfl, fun hkind => ?_⟩
      rw [hkind] at h
      cases h
    · rw [policyOf_of_notMem hmem] at h
      cases h
  · rintro ⟨r, hr, rfl, hkind⟩
    rw [policyOf_of_mem hr]
    cases hk : r.kind with
    | create => exact absurd hk hkind
    | list => rfl
    | get => rfl

lemma wrap_eq {payload : List (String × Data)} (hkeys : (payload.map Prod.fst).Nodup) (operation : String)
    (routes : List Route) (now : Instant) : wrap payload operation routes now =
      if "_offline" ∈ payload.map Prod.fst then
        payload.map fun entry => if entry.1 = "_offline" then ("_offline", flags operation routes now)
        else entry
      else payload ++ [("_offline", flags operation routes now)] := by
  rw [wrap]
  split
  · exact Assoc.insert_of_mem hkeys (by assumption) _
  · exact Assoc.insert_of_notMem (by assumption) _

lemma wrap_eq_noCache_iff {payload : List (String × Data)} :
    wrap payload operation routes now = noCache payload ↔
    (policyOf operation routes).cacheable = false := by
  rw [wrap, noCache, Assoc.insert_inj, flags_eq_notCached_iff]

/--
A wrapped payload is the payload with the block of the operation in the place of an earlier block,
or at the end. Wrapped again it has the later block only. It is marked as not cached exactly for the
operations that no reading route of the table has, and which table has the operation does not matter
for the block.
-/
theorem wrap_replaces_block (domains : List Domain) {payload : List (String × Data)}
    (hkeys : (payload.map Prod.fst).Nodup) (operation other : String) (now later : Instant) :
    let table := RouteTable.ofDomains domains
    (wrap payload operation table now =
      if "_offline" ∈ payload.map Prod.fst then
        payload.map fun entry => if entry.1 = "_offline" then ("_offline", flags operation table now)
        else entry
      else payload ++ [("_offline", flags operation table now)]) ∧
    wrap (wrap payload operation table now) other table later = wrap payload other table later ∧
    noCache (wrap payload operation table now) = noCache payload ∧
    (wrap payload operation table now = noCache payload ↔
      ¬∃ r ∈ table, r.operationId = operation ∧ r.kind ≠ .create) ∧
    ∀ others : List Domain, operation ∈ RouteTable.operationIds table →
      operation ∈ RouteTable.operationIds (RouteTable.ofDomains others) →
        flags operation (RouteTable.ofDomains others) now = flags operation table now := by
  intro table
  refine ⟨wrap_eq hkeys operation table now, Assoc.insert_insert .., Assoc.insert_insert .., ?_,
    fun others h hother => flags_congr (policyOf_congr h hother)⟩
  rw [wrap_eq_noCache_iff, ← cacheable_iff, Bool.not_eq_true]

theorem wrap_replaces_block_user :
    let payload := [("_offline", Data.null), ("id", .string "1")]
    let table := RouteTable.ofDomains [⟨"user"⟩, ⟨"User"⟩]
    (payload.map Prod.fst).Nodup ∧
    wrap payload "getUser" table ⟨0⟩ = [("_offline", flags "getUser" table ⟨0⟩), ("id", .string "1")] ∧
    wrap (wrap payload "getUser" table ⟨0⟩) "createUser" table ⟨0⟩ = noCache payload ∧
    flags "getUser" (RouteTable.ofDomains [⟨"item"⟩, ⟨"User"⟩]) ⟨0⟩ = flags "getUser" table ⟨0⟩ := by
  intro payload table
  have hkeys : (payload.map Prod.fst).Nodup := by decide
  obtain ⟨hwrap, hagain, -, -, htables⟩ :=
    wrap_replaces_block [⟨"user"⟩, ⟨"User"⟩] hkeys "getUser" "createUser" ⟨0⟩ ⟨0⟩
  obtain ⟨-, -, -, hcreate, -⟩ :=
    wrap_replaces_block [⟨"user"⟩, ⟨"User"⟩] hkeys "createUser" "getUser" ⟨0⟩ ⟨0⟩
  refine ⟨hkeys, hwrap.trans (by simp [payload, table]), hagain.trans (hcreate.mpr (by decide +kernel)), ?_⟩
  exact htables [⟨"item"⟩, ⟨"User"⟩] (by decide +kernel) (by decide +kernel)

end Offline

end ApiScaffold
