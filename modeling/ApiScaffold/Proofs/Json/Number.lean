import ApiScaffold.Json.Token
import ApiScaffold.Proofs.Numeric.Digits
import ApiScaffold.Proofs.Text.Trim

namespace ApiScaffold.Json

def Ends (rest : List Char) : Prop := ∃ c more, rest = c :: more ∧ (c = ',' ∨ c = '\n')

variable {rest : List Char}

lemma Ends.fraction_eq (h : Ends rest) : fraction rest = ([], rest) := by
  obtain ⟨c, more, rfl, rfl | rfl⟩ := h <;> rfl

lemma Ends.exponent?_eq (h : Ends rest) : exponent? rest = (none, rest) := by
  obtain ⟨c, more, rfl, rfl | rfl⟩ := h <;> rfl

lemma Ends.isDigit_eq_false (h : Ends rest) : ∀ c ∈ rest.head?, c.isDigit = false := by
  obtain ⟨c, more, rfl, rfl | rfl⟩ := h <;> simp

lemma wholePart_eq {s : List Char} (h : s.head? ≠ some '0') :
    wholePart s = (s.takeWhile Char.isDigit, s.dropWhile Char.isDigit) := by
  unfold wholePart
  split
  · simp at h
  · rfl

lemma wholePart_append {digits after : List Char} (hdigits : ∀ c ∈ digits, c.isDigit) (hne : digits ≠ [])
    (hleading : digits.head? ≠ some '0') (hends : ∀ c ∈ after.head?, c.isDigit = false) :
    wholePart (digits ++ after) = (digits, after) := by
  have hhead : (digits ++ after).head? ≠ some '0' := by
    rwa [List.head?_append, Option.or_of_isSome (List.isSome_head?.mpr hne)]
  rw [wholePart_eq hhead, Text.takeWhile_append_of_stop hdigits hends,
    Text.dropWhile_append_of_stop hdigits hends]

lemma wholePart_toDigits (n : Nat) (h : Ends rest) :
    wholePart (Nat.toDigits 10 n ++ rest) = (Nat.toDigits 10 n, rest) := by
  rcases Nat.eq_zero_or_pos n with rfl | hn
  · rfl
  · exact wholePart_append (isDigit_toDigits n) Nat.toDigits_ne_nil (head?_toDigits hn) h.isDigit_eq_false

lemma readNumber_toDigits (negative : Bool) {n : Nat} (hn : (Nat.toDigits 10 n).length ≤ maxDigits)
    (h : Ends rest) :
    readNumber negative (Nat.toDigits 10 n ++ rest) =
      .ok (.int (if negative then -(n : Int) else n), rest) := by
  have hne : (Nat.toDigits 10 n).isEmpty = false := by simp [Nat.toDigits_ne_nil]
  simp [readNumber, wholePart_toDigits n h, h.fraction_eq, h.exponent?_eq, hne, Nat.not_lt.mpr hn,
    digitsValue_toDigits]

end ApiScaffold.Json
