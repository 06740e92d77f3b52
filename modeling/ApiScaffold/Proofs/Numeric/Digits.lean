import ApiScaffold.Numeric.Digits
import Mathlib.Tactic.Lemma

namespace ApiScaffold

lemma digitsValue_concat (s : List Char) (c : Char) :
    digitsValue (s ++ [c]) = 10 * digitsValue s + (c.toNat - '0'.toNat) := by
  rw [digitsValue, List.foldl_append]
  rfl

lemma digitsValue_toDigits (n : Nat) : digitsValue (Nat.toDigits 10 n) = n := by
  induction n using Nat.strongRecOn with
  | ind n ih =>
    have hdigit : ∀ d < 10, d.digitChar.toNat - '0'.toNat = d := by decide
    by_cases hn : n < 10
    · rw [Nat.toDigits_of_lt_base hn, ← List.nil_append [n.digitChar], digitsValue_concat, hdigit n hn]
      exact Nat.zero_add n
    · rw [Nat.toDigits_of_base_le (by decide) (Nat.le_of_not_lt hn), digitsValue_concat, ih _ (by omega),
        hdigit _ (Nat.mod_lt n (by decide))]
      omega

lemma head?_toDigits {n : Nat} (hn : 0 < n) : (Nat.toDigits 10 n).head? ≠ some '0' := by
  induction n using Nat.strongRecOn with
  | ind n ih =>
    by_cases hlt : n < 10
    · rw [Nat.toDigits_of_lt_base hlt]
      exact (by decide : ∀ n < 10, 0 < n → [n.digitChar].head? ≠ some '0') n hlt hn
    · have hrest := ih (n / 10) (by omega) (by omega)
      rw [Nat.toDigits_of_base_le (by decide) (Nat.le_of_not_lt hlt)]
      cases hd : Nat.toDigits 10 (n / 10) with
      | nil => exact absurd hd Nat.toDigits_ne_nil
      | cons c digits => rwa [hd] at hrest

lemma isDigit_toDigits (n : Nat) : ∀ c ∈ Nat.toDigits 10 n, c.isDigit :=
  fun _ => Nat.isDigit_of_mem_toDigits (by decide) (by decide)

lemma exists_toDigits_eq_cons (n : Nat) : ∃ c digits, Nat.toDigits 10 n = c :: digits ∧ c.isDigit := by
  cases hd : Nat.toDigits 10 n with
  | nil => exact absurd hd Nat.toDigits_ne_nil
  | cons c digits => exact ⟨c, digits, rfl, isDigit_toDigits n c (by simp [hd])⟩

lemma notMem_toDigits {c : Char} (hc : c.isDigit = false) (n : Nat) : c ∉ Nat.toDigits 10 n :=
  fun h => Bool.false_ne_true (hc.symm.trans (isDigit_toDigits n c h))

lemma toDigits_inj {m n : Nat} : Nat.toDigits 10 m = Nat.toDigits 10 n ↔ m = n := by
  refine ⟨fun h => ?_, fun h => h ▸ rfl⟩
  rw [← digitsValue_toDigits m, h, digitsValue_toDigits]

lemma toList_repr (n : Int) : n.repr.toList = (if n < 0 then ['-'] else []) ++ Nat.toDigits 10 n.natAbs := by
  cases n <;> simp [Int.repr]

lemma repr_inj {m n : Int} : m.repr = n.repr ↔ m = n := by
  have hminus (k : Nat) (s : List Char) : Nat.toDigits 10 k ≠ '-' :: s := fun h =>
    notMem_toDigits (c := '-') (by decide) k (h ▸ List.mem_cons_self)
  refine ⟨fun h => ?_, fun h => h ▸ rfl⟩
  rw [← String.toList_inj, toList_repr, toList_repr] at h
  split at h <;> split at h
  · have habs := toDigits_inj.mp (List.cons.inj h).2
    omega
  · exact absurd h.symm (hminus _ _)
  · exact absurd h (hminus _ _)
  · have habs := toDigits_inj.mp h
    omega

lemma notMem_repr {c : Char} (hc : c.isDigit = false) (hminus : c ≠ '-') (n : Int) : c ∉ n.repr.toList := by
  cases n with
  | ofNat n => simpa [Int.repr] using notMem_toDigits hc n
  | negSucc n => simpa [Int.repr, hminus] using notMem_toDigits hc (n + 1)

end ApiScaffold
