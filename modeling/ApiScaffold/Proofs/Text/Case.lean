import ApiScaffold.Text.Case
import Mathlib.Tactic.Lemma

namespace ApiScaffold.Text

lemma le_of_mem_upperExpansions : ∀ entry ∈ upperExpansions, ∀ n ∈ entry.2, 65 ≤ (Char.ofNat n).toNat := by
  decide +kernel

lemma upperRuns_shift : ∀ run ∈ upperRuns, 65 ≤ run.1 + run.2.2.2 ∧
    (run.2.1 + run.2.2.2 < 0xd800 ∨ 0xdfff < run.1 + run.2.2.2 ∧ run.2.1 + run.2.2.2 < 0x110000) := by
  decide +kernel

variable {c x : Char}

lemma mem_upper (hx : x.toNat < 65) (h : x ∈ upper c) : x = c := by
  simp only [upper, mapCase] at h
  split at h
  · rename_i m image hfind
    obtain ⟨n, hn, rfl⟩ := List.mem_map.mp h
    have hle := le_of_mem_upperExpansions _ (List.mem_of_find?_eq_some hfind) n hn
    omega
  · split at h
    · rename_i first last step shift hfind
      obtain ⟨hfirst, hvalid⟩ := upperRuns_shift _ (List.mem_of_find?_eq_some hfind)
      dsimp only at hfirst hvalid
      have hrange := List.find?_some hfind
      simp only [Bool.and_eq_true, decide_eq_true_eq] at hrange
      obtain ⟨n, hn⟩ : ∃ n : Nat, c.toNat + shift = n := Int.eq_ofNat_of_zero_le (by omega)
      rw [hn, Int.toNat_natCast, List.mem_singleton] at h
      have hchar : n.isValidChar := by
        rcases hvalid with hlow | ⟨hlow, hhigh⟩
        · exact .inl (by omega)
        · exact .inr ⟨by omega, by omega⟩
      have hnat : (Char.ofNat n).toNat = n := by
        rw [Char.ofNat, dif_pos hchar]
        rfl
      rw [h, hnat] at hx
      omega
    · exact List.mem_singleton.mp h

lemma upper_ne_nil (c : Char) : upper c ≠ [] := by
  rw [upper, mapCase]
  split
  · rename_i m image hfind
    have himages : ∀ entry ∈ upperExpansions, entry.2 ≠ [] := by decide +kernel
    simpa using himages _ (List.mem_of_find?_eq_some hfind)
  · split
    · exact List.cons_ne_nil _ _
    · exact List.cons_ne_nil _ _

lemma all_capitalize {p : Char → Bool} (hupper : ∀ c, p c → (upper c).all p) {s : String}
    (h : s.toList.all p) :
    (capitalize s).toList.all p := by
  cases hs : s.toList with
  | nil => simp [capitalize, hs]
  | cons c rest =>
    rw [hs, List.all_cons, Bool.and_eq_true] at h
    rw [toList_capitalize_of_toList_eq_cons hs, List.all_append, hupper c h.1, h.2]
    rfl

lemma forall_of_toNat_lt {n : Nat} {p q : Char → Bool} (hp : ∀ c, p c → c.toNat < n)
    (h : ∀ k < n, p (Char.ofNat k) → q (Char.ofNat k)) {c : Char} (hc : p c) : q c := by
  have hq := h c.toNat (hp c hc)
  rw [Char.ofNat_toNat] at hq
  exact hq hc

lemma mem_capitalize (hx : x.toNat < 65) {s : String} (h : x ∈ (capitalize s).toList) : x ∈ s.toList := by
  cases hs : s.toList with
  | nil => simp [capitalize, hs] at h
  | cons c rest =>
    rw [toList_capitalize_of_toList_eq_cons hs, List.mem_append] at h
    rcases h with h | h
    · rw [mem_upper hx h]
      exact List.mem_cons_self
    · exact List.mem_cons_of_mem c h

end ApiScaffold.Text
