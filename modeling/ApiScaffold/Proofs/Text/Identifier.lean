import ApiScaffold.Proofs.Text.Case
import Mathlib.Tactic.Lemma

namespace ApiScaffold.Text

def isWordChar (c : Char) : Bool := c.isAlphanum || c = '_'

def isWord (s : List Char) : Bool := s.all isWordChar

def isIdentifier (s : String) : Bool :=
  match s.toList with
  | [] => false
  | c :: rest => (c.isAlpha || c = '_') && isWord rest

lemma isWord_of_isIdentifier {s : String} (h : isIdentifier s) : isWord s.toList := by
  unfold isIdentifier at h
  split at h
  · simp at h
  · rename_i c rest hs
    simp only [Bool.and_eq_true, Bool.or_eq_true, decide_eq_true_eq] at h
    have hc : isWordChar c = true := by
      rcases h.1 with ha | rfl
      · simp [isWordChar, Char.isAlphanum, ha]
      · decide
    rw [hs, isWord, List.all_cons, hc]
    exact h.2

@[simp] lemma isWord_append (s t : List Char) : isWord (s ++ t) = (isWord s && isWord t) :=
  List.all_append

lemma isWord_concat {s t : String} (hs : isWord s.toList) (ht : isWord t.toList) :
    isWord (s ++ t).toList := by
  rw [String.toList_append, isWord_append, hs, ht]
  rfl

lemma toNat_lt_of_isWordChar {c : Char} (h : isWordChar c) : c.toNat < 128 := by
  delta isWordChar Char.isAlphanum Char.isAlpha Char.isUpper Char.isLower Char.isDigit at h
  simp only [Bool.or_eq_true, Bool.and_eq_true, decide_eq_true_eq, ge_iff_le, UInt32.le_iff_toNat_le] at h
  change c.val.toNat < 128
  rcases h with ((h | h) | h) | rfl
  · exact Nat.lt_of_le_of_lt h.2 (by decide)
  · exact Nat.lt_of_le_of_lt h.2 (by decide)
  · exact Nat.lt_of_le_of_lt h.2 (by decide)
  · decide

lemma forall_wordChar {p : Char → Bool}
    (h : ∀ n < 128, isWordChar (Char.ofNat n) → p (Char.ofNat n)) {c : Char} (hc : isWordChar c) : p c :=
  forall_of_toNat_lt (fun _ => toNat_lt_of_isWordChar) h hc

lemma isWord_upper {c : Char} (h : isWordChar c) : isWord (upper c) :=
  forall_wordChar (p := fun c => isWord (upper c)) (by decide +kernel) h

lemma isWord_capitalize {s : String} (h : isWord s.toList) : isWord (capitalize s).toList :=
  all_capitalize (fun _ => isWord_upper) h

lemma isWord_lowerFrom {s : List Char} (before : List Char) (h : isWord s) : isWord (lowerFrom before s) := by
  induction s generalizing before with
  | nil => rfl
  | cons c rest ih =>
    rw [isWord, List.all_cons, Bool.and_eq_true] at h
    have hc : isWord (mapCase lowerRuns lowerExpansions c) = true :=
      forall_wordChar (p := fun c => isWord (mapCase lowerRuns lowerExpansions c)) (by decide +kernel) h.1
    have hne : c ≠ 'Σ' := by
      rintro rfl
      exact absurd h.1 (by decide)
    simp only [lowerFrom, if_neg hne, isWord_append, hc, ih _ h.2, Bool.and_self]

lemma isWord_lower {s : String} (h : isWord s.toList) : isWord (lower s).toList := by
  rw [lower, String.toList_ofList]
  exact isWord_lowerFrom [] h

lemma notMem_of_isWord {c : Char} {s : List Char} (hc : isWordChar c = false) (h : isWord s) : c ∉ s := by
  intro hs
  rw [List.all_eq_true.mp h c hs] at hc
  simp at hc

end ApiScaffold.Text
