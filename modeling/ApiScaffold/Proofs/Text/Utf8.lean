import ApiScaffold.Text.Utf8
import Mathlib.Tactic.Lemma

namespace ApiScaffold.Utf8

lemma decode_toUTF8 (s : String) : decode s.toUTF8 = .ok s := by
  have hvalid : String.fromUTF8? s.toByteArray = some s := by
    rw [String.fromUTF8?, dif_pos s.isValidUTF8]
    rfl
  rw [decode, String.toUTF8_eq_toByteArray, hvalid]

lemma unifyLines_of_notMem {s : List Char} (h : '\r' ∉ s) : unifyLines s = s := by
  induction s with
  | nil => rfl
  | cons c rest ih =>
    rw [List.mem_cons, not_or] at h
    have hc : c ≠ '\r' := Ne.symm h.1
    simp [unifyLines, hc, ih h.2]

end ApiScaffold.Utf8
