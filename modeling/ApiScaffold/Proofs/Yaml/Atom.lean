import ApiScaffold.Proofs.Numeric.Digits
import ApiScaffold.Proofs.Yaml.Scalar
import ApiScaffold.Yaml.Printer

/-!
Data that are written as one scalar, empty collections included. The scalar tells which they are: a string
that would be taken for another value stands in quotes.
-/

namespace ApiScaffold.Yaml

def Printable (s : String) : Prop := ∀ c ∈ s.toList, isPrintable c

-- decided along the text, not over all characters
instance (s : String) : Decidable (Printable s) := List.decidableBAll _ _

inductive Legible : Data → Prop
  | null : Legible .null
  | bool (b : Bool) : Legible (.bool b)
  | int (n : Int) : Legible (.int n)
  | string {s : String} : Printable s → Legible (.string s)
  | list {items : List Data} : (∀ value ∈ items, Legible value) → Legible (.list items)
  | map {entries : List (String × Data)} : (∀ entry ∈ entries, Printable entry.1) →
      (∀ entry ∈ entries, Legible entry.2) → Legible (.map entries)

inductive Word : Data → List Char → Prop
  | null : Word .null "null".toList
  | ofTrue : Word (.bool true) "true".toList
  | ofFalse : Word (.bool false) "false".toList
  | int (n : Int) : Word (.int n) n.repr.toList
  | list : Word (.list []) "[]".toList
  | map : Word (.map []) "\x7b\x7d".toList

inductive Token.Of : Data → Token → Prop
  | word {value : Data} {s : List Char} : Word value s → Of value ⟨false, s⟩
  | string (s : String) : Of (.string s) (.ofString s.toList)

variable {a b value : Data} {s t : List Char} {token : Token}

lemma isInt_of_count (h : startsWithCount (unsigned s)) : isInt s := by
  have hzero : (unsigned s).head? ≠ some '0' := by
    simp only [startsWithCount, Bool.and_eq_true, bne_iff_ne] at h
    exact h.2
  unfold isInt
  split
  · rfl
  · rename_i heq
    exact absurd (congrArg List.head? heq) hzero
  · rename_i heq
    exact absurd (congrArg List.head? heq) hzero
  · rename_i heq
    exact absurd (congrArg List.head? heq) hzero
  · rw [h, Bool.true_or]

lemma startsWithCount_toDigits {n : Nat} (hn : 0 < n) : startsWithCount (Nat.toDigits 10 n) := by
  have hhead := head?_toDigits hn
  have hdigits := isDigit_toDigits n
  cases hd : Nat.toDigits 10 n with
  | nil => exact absurd hd Nat.toDigits_ne_nil
  | cons c rest =>
    rw [hd] at hhead hdigits
    obtain ⟨hc, hrest⟩ := List.forall_mem_cons.mp hdigits
    have hall : rest.all isDigitOrGap := List.all_eq_true.mpr fun d hd => by
      rw [isDigitOrGap, hrest d hd, Bool.true_or]
    simp only [startsWithCount, startsWithDigit, hc, hall, Bool.and_self, Bool.true_and, bne_iff_ne]
    exact hhead

lemma unsigned_toDigits (n : Nat) : unsigned (Nat.toDigits 10 n) = Nat.toDigits 10 n := by
  unfold unsigned
  split
  · rename_i heq
    exact absurd (heq ▸ List.mem_cons_self) (notMem_toDigits (c := '-') (by decide) n)
  · rename_i heq
    exact absurd (heq ▸ List.mem_cons_self) (notMem_toDigits (c := '+') (by decide) n)
  · rfl

lemma isInt_repr (n : Int) : isInt n.repr.toList := by
  rw [toList_repr]
  by_cases hzero : n = 0
  · subst hzero
    decide
  · refine isInt_of_count ?_
    have hcount := startsWithCount_toDigits (Int.natAbs_pos.mpr hzero)
    split
    · exact hcount
    · rwa [List.nil_append, unsigned_toDigits]

lemma containsIndicator_of_notMem (hblank : ' ' ∉ s) (hcolon : ':' ∉ s) : containsIndicator s = false := by
  induction s with
  | nil => rfl
  | cons c s ih =>
    rw [List.mem_cons, not_or] at hblank hcolon
    unfold containsIndicator
    split
    · rename_i heq
      exact absurd (List.cons.inj heq).1.symm hblank.1
    · rename_i heq
      exact absurd (List.cons.inj heq).1.symm hcolon.1
    · rename_i heq
      cases heq
      exact ih hblank.2 hcolon.2
    · rfl

def specials : List Char := " \n:'?".toList

lemma isPlain_of_notMem (h : specials.all (· ∉ s)) (hne : s ≠ []) (hminus : s ≠ ['-']) : IsPlain s := by
  simp only [specials, String.reduceToList, List.all_eq_true, decide_eq_true_eq, List.forall_mem_cons] at h
  obtain ⟨hblank, hline, hcolon, hquote, hquestion, -⟩ := h
  obtain ⟨c, rest, rfl⟩ := List.exists_cons_of_ne_nil hne
  refine ⟨hline, containsIndicator_of_notMem hblank hcolon, c, rest, rfl, ?_, ?_, ?_⟩
  · rintro rfl
    exact hblank List.mem_cons_self
  · rintro rfl
    exact hquote List.mem_cons_self
  · rintro (rfl | rfl)
    · cases rest with
      | nil => exact absurd rfl hminus
      | cons d rest =>
        have hd : d ≠ ' ' := fun hd => hblank (by simp [hd])
        simpa [endsAtBlank] using hd
    · exact absurd List.mem_cons_self hquestion

lemma repr_ne (n : Int) : n.repr.toList ≠ [] ∧ n.repr.toList ≠ ['-'] := by
  rw [toList_repr]
  split <;> simp [Nat.toDigits_ne_nil]
  intro h
  exact notMem_toDigits (c := '-') (by decide) n.natAbs (h ▸ List.mem_singleton_self _)

lemma isPlain_repr (n : Int) : IsPlain n.repr.toList := by
  have hspecials : specials.all fun c => c.isDigit = false ∧ c ≠ '-' := by decide
  refine isPlain_of_notMem (List.all_eq_true.mpr fun c hc => ?_) (repr_ne n).1 (repr_ne n).2
  obtain ⟨hdigit, hminus⟩ := of_decide_eq_true (List.all_eq_true.mp hspecials c hc)
  exact decide_eq_true (notMem_repr hdigit hminus n)

lemma Word.isPlain (h : Word value s) : IsPlain s := by
  cases h with
  | int n => exact isPlain_repr n
  | _ => exact isPlain_of_notMem (by decide) (by decide) (by decide)

lemma Word.style_ne (h : Word value s) : style false s ≠ .plain := by
  cases h with
  | int n =>
    have himplicit : isImplicit n.repr.toList := by simp [isImplicit, isInt_repr]
    rw [style, himplicit, Bool.not_true, Bool.false_and, if_neg Bool.false_ne_true]
    split <;> decide
  | _ => decide

lemma repr_ne_word (n : Int) : ∀ word ∈ ["null", "true", "false", "[]", "\x7b\x7d"],
    n.repr.toList ≠ word.toList := by
  have hmark : ∀ word ∈ ["null", "true", "false", "[]", "\x7b\x7d"],
      word.toList.any fun c => c.isDigit = false ∧ c ≠ '-' := by decide
  intro word hword heq
  obtain ⟨c, hc, hdecide⟩ := List.any_eq_true.mp (hmark word hword)
  obtain ⟨hdigit, hminus⟩ := of_decide_eq_true hdecide
  exact notMem_repr hdigit hminus n (heq ▸ hc)

lemma Word.unique (ha : Word a s) (hb : Word b t) (h : s = t) : a = b := by
  cases ha with
  | int n =>
    cases hb with
    | int m => rw [repr_inj.mp (String.toList_inj.mp h)]
    | _ => exact absurd h (repr_ne_word n _ (by decide))
  | _ =>
    cases hb with
    | int m => exact absurd h.symm (repr_ne_word m _ (by decide))
    | _ => first | rfl | exact absurd h (by decide)

namespace Token

lemma style_ofString {string : String} (h : ofString string.toList = ⟨false, s⟩) :
    style false s = .plain := by
  obtain ⟨hquoted, rfl⟩ := Token.mk.inj h
  simpa using hquoted

lemma Of.unique {other : Token} (ha : Of a token) (hb : Of b other) (h : token = other) : a = b := by
  cases ha with
  | word ha =>
    cases hb with
    | word hb => exact ha.unique hb (congrArg content h)
    | string => exact absurd (style_ofString h.symm) ha.style_ne
  | string =>
    cases hb with
    | word hb => exact absurd (style_ofString h) hb.style_ne
    | string => rw [String.toList_inj.mp (congrArg content h)]

lemma node_word (h : Word value s) (place : Place) : node place value = place.lead ++ s := by
  cases h <;> rfl

lemma folded_asIs (indent : Nat) (s : List Char) : Folded asIs indent s s := by
  have hfolded := (Folded.nil : Folded asIs indent [] []).append s
  rwa [List.append_nil, List.append_nil, flatMap_asIs] at hfolded

lemma Of.exists_spells (hvalue : Legible value) (h : Of value token) (place : Place) :
    ∃ text, node place value = place.lead ++ text ∧ token.Spells place.spot.indent text := by
  cases h with
  | word h => exact ⟨_, node_word h place, .plain h.isPlain (folded_asIs _ _)⟩
  | string s =>
    cases hvalue with
    | string hs => exact ⟨_, rfl, spells_writeString hs false _ fun _ => rfl⟩

end Token

end ApiScaffold.Yaml
