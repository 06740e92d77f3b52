import ApiScaffold.Assoc
import Mathlib.Data.List.Induction
import Mathlib.Data.List.Nodup
import Mathlib.Tactic.Lemma

namespace ApiScaffold.Assoc

variable {κ α : Type} [DecidableEq κ] {k : κ} {v w : α} {entries : List (κ × α)}

lemma get?_append (k : κ) (entries more : List (κ × α)) :
    get? k (entries ++ more) = (get? k entries).or (get? k more) := by
  induction entries with
  | nil => rfl
  | cons entry rest ih =>
    rw [List.cons_append, get?, get?, ih]
    split <;> rfl

lemma get?_eq_none_iff : get? k entries = none ↔ k ∉ entries.map Prod.fst := by
  induction entries with
  | nil => simp [get?]
  | cons entry rest ih => by_cases hk : entry.1 = k <;> simp [get?, hk, ih, Ne.symm]

lemma get?_of_notMem (h : k ∉ entries.map Prod.fst) : get? k entries = none := get?_eq_none_iff.mpr h

lemma get?_append_of_notMem (h : k ∉ entries.map Prod.fst) (more : List (κ × α)) :
    get? k (entries ++ more) = get? k more := by
  rw [get?_append, get?_of_notMem h, Option.none_or]

lemma insert_append_of_notMem (h : k ∉ entries.map Prod.fst) (v : α) (more : List (κ × α)) :
    insert k v (entries ++ more) = entries ++ insert k v more := by
  induction entries with
  | nil => rfl
  | cons entry rest ih =>
    rw [List.map_cons, List.mem_cons, not_or] at h
    rw [List.cons_append, insert, if_neg (Ne.symm h.1), ih h.2, List.cons_append]

lemma insert_of_notMem (h : k ∉ entries.map Prod.fst) (v : α) : insert k v entries = entries ++ [(k, v)] := by
  rw [← List.append_nil entries, insert_append_of_notMem h, List.append_nil, insert]

lemma foldl_insert (pre : List (κ × α)) (h : ((pre ++ entries).map Prod.fst).Nodup) :
    entries.foldl (fun acc entry => insert entry.1 entry.2 acc) pre = pre ++ entries := by
  induction entries generalizing pre with
  | nil => simp
  | cons entry rest ih =>
    have hentry : entry.1 ∉ pre.map Prod.fst := by
      rw [List.map_append] at h
      exact fun hmem => (List.nodup_append.mp h).2.2 _ hmem entry.1 List.mem_cons_self rfl
    rw [List.append_cons] at h
    rw [List.foldl_cons, insert_of_notMem hentry, ih _ h, List.append_assoc]
    rfl

lemma ofList_of_nodup (h : (entries.map Prod.fst).Nodup) : ofList entries = entries := foldl_insert [] h

lemma get?_of_mem (hn : (entries.map Prod.fst).Nodup) (h : (k, v) ∈ entries) : get? k entries = some v := by
  induction entries with
  | nil => cases h
  | cons entry rest ih =>
    obtain ⟨hentry, hrest⟩ := List.nodup_cons.mp hn
    rcases List.mem_cons.mp h with rfl | h
    · rw [get?, if_pos rfl]
    · have hne : entry.1 ≠ k := fun heq => hentry (heq ▸ List.mem_map_of_mem (f := Prod.fst) h)
      rw [get?, if_neg hne, ih hrest h]

lemma mem_of_get? (h : get? k entries = some v) : (k, v) ∈ entries := by
  induction entries with
  | nil => cases h
  | cons entry rest ih =>
    obtain ⟨k', w⟩ := entry
    rw [get?] at h
    split at h
    · rename_i hk
      cases h
      exact hk ▸ List.mem_cons_self
    · exact List.mem_cons_of_mem _ (ih h)

lemma get?_filter (p : κ → Bool) (k : κ) (entries : List (κ × α)) :
    get? k (entries.filter fun e => p e.1) = if p k then get? k entries else none := by
  induction entries with
  | nil => simp [get?]
  | cons e rest ih =>
    by_cases hk : e.1 = k
    · subst hk
      cases hp : p e.1 <;> simp [get?, hp, ih]
    · cases hp : p e.1 <;> simp [get?, hp, hk, ih]

lemma insert_of_get? (h : get? k entries = some v) : insert k v entries = entries := by
  induction entries with
  | nil => cases h
  | cons entry rest ih =>
    obtain ⟨k', w⟩ := entry
    rw [get?] at h
    rw [insert]
    split at h
    · rw [Option.some.inj h, if_pos (by assumption)]
    · rw [if_neg (by assumption), ih h]

lemma mem_keys_insert {k' : κ} : k' ∈ (insert k v entries).map Prod.fst ↔
    k' = k ∨ k' ∈ entries.map Prod.fst := by
  induction entries with
  | nil => simp [insert]
  | cons entry rest ih =>
    rw [insert]
    split
    · rename_i hk
      simp [hk]
    · rw [List.map_cons, List.mem_cons, ih, List.map_cons, List.mem_cons]
      exact or_left_comm

lemma mem_keys_ofList : k ∈ (ofList entries).map Prod.fst ↔ k ∈ entries.map Prod.fst := by
  suffices h : ∀ pre : List (κ × α),
      k ∈ (entries.foldl (fun acc entry => insert entry.1 entry.2 acc) pre).map Prod.fst ↔
      k ∈ pre.map Prod.fst ∨ k ∈ entries.map Prod.fst by
    simpa [ofList] using h []
  intro pre
  induction entries generalizing pre with
  | nil => simp
  | cons entry rest ih =>
    rw [List.foldl_cons, ih, mem_keys_insert, List.map_cons, List.mem_cons]
    tauto

lemma ofList_concat (entries : List (κ × α)) (e : κ × α) :
    ofList (entries ++ [e]) = insert e.1 e.2 (ofList entries) := by
  rw [ofList, List.foldl_append]
  rfl

lemma get?_ofList (k : κ) (entries : List (κ × α)) :
    get? k (ofList entries) = ((entries.filter fun e => e.1 = k).getLast?).map Prod.snd := by
  induction entries using List.reverseRecOn with
  | nil => rfl
  | append_singleton rest e ih =>
    rw [ofList_concat, get?_insert, ih, List.filter_append]
    by_cases hk : e.1 = k
    · have hlast : ([e].filter fun e => e.1 = k) = [e] := by simp [hk]
      rw [if_pos hk, hlast, List.getLast?_concat, Option.map_some]
    · have hlast : ([e].filter fun e => e.1 = k) = [] := by simp [hk]
      rw [if_neg hk, hlast, List.append_nil]

lemma filter_insert (p : κ → Bool) (k : κ) (v : α) (entries : List (κ × α)) :
    (insert k v entries).filter (fun e => p e.1) =
      if p k then insert k v (entries.filter fun e => p e.1) else entries.filter fun e => p e.1 := by
  induction entries with
  | nil => cases hp : p k <;> simp [insert, hp]
  | cons e rest ih =>
    by_cases hk : e.1 = k
    · subst hk
      cases hp : p e.1 <;> simp [insert, hp]
    · rw [insert, if_neg hk, List.filter_cons, ih, List.filter_cons]
      cases hp : p k <;> cases he : p e.1 <;> simp [insert, hk]

lemma filter_ofList (p : κ → Bool) (entries : List (κ × α)) :
    (ofList entries).filter (fun e => p e.1) = ofList (entries.filter fun e => p e.1) := by
  induction entries using List.reverseRecOn with
  | nil => rfl
  | append_singleton rest e ih =>
    rw [ofList_concat, filter_insert, ih, List.filter_append]
    cases hp : p e.1 with
    | false =>
      have hlast : ([e].filter fun e => p e.1) = [] := by simp [hp]
      rw [hlast, List.append_nil, if_neg Bool.false_ne_true]
    | true =>
      have hlast : ([e].filter fun e => p e.1) = [e] := by simp [hp]
      rw [hlast, ofList_concat, if_pos rfl]

lemma ofList_of_forall_eq (h : ∀ e ∈ entries, e.1 = k) :
    ofList entries = (entries.getLast?.map fun e => (k, e.2)).toList := by
  induction entries using List.reverseRecOn with
  | nil => rfl
  | append_singleton rest e ih =>
    obtain ⟨hrest, he⟩ := List.forall_mem_append.mp h
    rw [ofList_concat, ih hrest, List.forall_mem_singleton.mp he, List.getLast?_concat]
    cases rest.getLast? with
    | none => rfl
    | some last => simp [insert]

lemma insert_insert (k : κ) (v w : α) (entries : List (κ × α)) :
    insert k w (insert k v entries) = insert k w entries := by
  induction entries with
  | nil => simp [insert]
  | cons e rest ih =>
    by_cases hk : e.1 = k
    · simp [insert, hk]
    · simp [insert, hk, ih]

lemma nodup_insert (h : (entries.map Prod.fst).Nodup) (k : κ) (v : α) :
    ((insert k v entries).map Prod.fst).Nodup := by
  induction entries with
  | nil => simp [insert]
  | cons e rest ih =>
    obtain ⟨he, hrest⟩ := List.nodup_cons.mp h
    rw [insert]
    split
    · exact h
    · rename_i hk
      refine List.nodup_cons.mpr ⟨fun hmem => ?_, ih hrest⟩
      rcases mem_keys_insert.mp hmem with heq | hmem
      · exact hk heq
      · exact he hmem

lemma nodup_ofList (entries : List (κ × α)) : ((ofList entries).map Prod.fst).Nodup := by
  induction entries using List.reverseRecOn with
  | nil => exact List.nodup_nil
  | append_singleton rest e ih =>
    rw [ofList_concat]
    exact nodup_insert ih e.1 e.2

lemma mem_ofList_iff : (k, v) ∈ ofList entries ↔ get? k (ofList entries) = some v :=
  ⟨get?_of_mem (nodup_ofList entries), mem_of_get?⟩

lemma insert_inj : insert k v entries = insert k w entries ↔ v = w := by
  refine ⟨fun h => ?_, fun h => h ▸ rfl⟩
  have hget := congrArg (get? k) h
  rw [get?_insert, get?_insert, if_pos rfl, if_pos rfl] at hget
  exact Option.some.inj hget

lemma insert_of_mem (hn : (entries.map Prod.fst).Nodup) (h : k ∈ entries.map Prod.fst) (v : α) :
    insert k v entries = entries.map fun e => if e.1 = k then (k, v) else e := by
  induction entries with
  | nil => cases h
  | cons e rest ih =>
    obtain ⟨he, hrest⟩ := List.nodup_cons.mp hn
    by_cases hk : e.1 = k
    · have hothers : rest.map (fun e => if e.1 = k then (k, v) else e) = rest := by
        refine (List.map_congr_left ?_).trans (List.map_id _)
        intro x hx
        exact if_neg fun hxk => he (by rw [hk, ← hxk]; exact List.mem_map_of_mem hx)
      rw [insert, if_pos hk, List.map_cons, if_pos hk, hothers, hk]
    · rw [insert, if_neg hk, List.map_cons, if_neg hk,
        ih hrest ((List.mem_cons.mp h).resolve_left (Ne.symm hk))]

variable {β : Type} {items : List β} {x : β} {key : β → κ}

lemma filter_key (hn : (items.map key).Nodup) (hx : x ∈ items) :
    (items.filter fun y => key y = key x) = [x] := by
  induction items with
  | nil => cases hx
  | cons y rest ih =>
    obtain ⟨hy, hrest⟩ := List.nodup_cons.mp hn
    rcases List.mem_cons.mp hx with rfl | hx
    · have hnone : (rest.filter fun z => key z = key x) = [] :=
        List.filter_eq_nil_iff.mpr fun z hz heq => hy (of_decide_eq_true heq ▸ List.mem_map_of_mem hz)
      rw [List.filter_cons_of_pos (by simp), hnone]
    · have hne : key y ≠ key x := fun heq => hy (heq ▸ List.mem_map_of_mem hx)
      rw [List.filter_cons_of_neg (by simpa using hne)]
      exact ih hrest hx

lemma find?_key (hn : (items.map key).Nodup) (hx : x ∈ items) :
    (items.find? fun y => key y = key x) = some x := by
  rw [← List.head?_filter, filter_key hn hx, List.head?_cons]

end ApiScaffold.Assoc
