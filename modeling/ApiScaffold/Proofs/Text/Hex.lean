import ApiScaffold.Text.Hex
import Mathlib.Algebra.Ring.Nat

namespace ApiScaffold.Text

lemma hexDigitValue?_hexDigit {n : Nat} (h : n < 16) : hexDigitValue? (hexDigit n) = some n :=
  (by decide : ∀ n < 16, hexDigitValue? (hexDigit n) = some n) n h

lemma notMem_hex {c : Char} (hc : hexDigitValue? c = none) (width n : Nat) : c ∉ hex width n := by
  induction width generalizing n with
  | zero => exact List.not_mem_nil
  | succ width ih =>
    rw [hex, List.mem_append, List.mem_singleton, not_or]
    refine ⟨ih _, ?_⟩
    rintro rfl
    rw [hexDigitValue?_hexDigit (Nat.mod_lt n (by decide))] at hc
    cases hc

lemma hexValue?_concat (s : List Char) (c : Char) :
    hexValue? (s ++ [c]) = (hexValue? s).bind fun n => (hexDigitValue? c).map fun d => 16 * n + d := by
  rw [hexValue?, List.foldl_append, ← hexValue?]
  cases hexValue? s with
  | none => rfl
  | some n => cases h : hexDigitValue? c <;> simp [h]

lemma hexValue?_hex (width n : Nat) : hexValue? (hex width n) = some (n % 16 ^ width) := by
  induction width generalizing n with
  | zero => simp [hex, hexValue?, Nat.mod_one]
  | succ width ih =>
    rw [hex, hexValue?_concat, ih, hexDigitValue?_hexDigit (Nat.mod_lt n (by decide)), Option.bind_some,
      Option.map_some]
    congr 1
    rw [Nat.pow_succ', Nat.mod_mul, Nat.add_comm]

end ApiScaffold.Text
