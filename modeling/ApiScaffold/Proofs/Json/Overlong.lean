import ApiScaffold.Proofs.Json.Parse
import Mathlib.Data.List.Find
import Mathlib.Data.List.TakeWhile

/-!
Where reading JSON meets a whole number with too many digits. The tokens in front of it do not depend on
what follows them, so the text before the number, read on its own, lacks nothing but a value at its end.
-/

namespace ApiScaffold.Json

open Chain

inductive Overlong (count : Nat) : List Char → Prop
  | mk {sign digits after : List Char} : sign = [] ∨ sign = ['-'] → (∀ c ∈ digits, c.isDigit) →
      digits.head? ≠ some '0' → digits.length = count → maxDigits < count →
      (∀ c ∈ after.head?, c.isDigit = false) →
      (fraction after).1 = [] → (exponent? after).1 = none → Overlong count (sign ++ digits ++ after)

/-! Punctuation ends every scalar. -/

variable {mark : Char} {token : Token}

lemma mark_cases (h : punctuation? mark = some token) :
    mark ∈ ['[', ']', '\x7b', '\x7d', ',', ':'] := by
  unfold punctuation? at h
  split at h <;> first | decide | cases h

lemma isDigit_mark (h : punctuation? mark = some token) : mark.isDigit = false := by
  unfold punctuation? at h
  split at h <;> first | rfl | cases h

lemma notMem_word (h : punctuation? mark = some token) : ∀ word ∈ words, mark ∉ word.1.toList := by
  have hall : ∀ c ∈ ['[', ']', '\x7b', '\x7d', ',', ':'], ∀ word ∈ words, c ∉ word.1.toList := by
    simp [words]
  exact hall mark (mark_cases h)

lemma takeWhile_mark (h : punctuation? mark = some token) (s rest : List Char) :
    (s ++ mark :: rest).takeWhile Char.isDigit = s.takeWhile Char.isDigit := by
  induction s with
  | nil => simp [isDigit_mark h]
  | cons c s ih => simp only [List.cons_append, List.takeWhile_cons, ih]

lemma dropWhile_mark (h : punctuation? mark = some token) (s rest : List Char) :
    (s ++ mark :: rest).dropWhile Char.isDigit = s.dropWhile Char.isDigit ++ mark :: rest := by
  induction s with
  | nil => simp [isDigit_mark h]
  | cons c s ih =>
    simp only [List.cons_append, List.dropWhile_cons, ih]
    split <;> rfl

lemma wholePart_mark (h : punctuation? mark = some token) (s rest : List Char) :
    wholePart (s ++ mark :: rest) = ((wholePart s).1, (wholePart s).2 ++ mark :: rest) := by
  have hmark : mark ≠ '0' := by
    rintro rfl
    simp [punctuation?] at h
  have htake := takeWhile_mark h s rest
  have hdrop := dropWhile_mark h s rest
  cases s with
  | nil => simp [wholePart, hmark, isDigit_mark h]
  | cons c s =>
    by_cases hc : c = '0'
    · subst hc
      rfl
    · rw [List.cons_append] at htake hdrop ⊢
      simp [wholePart, hc, htake, hdrop]

lemma fraction_mark (h : punctuation? mark = some token) (s rest : List Char) :
    fraction (s ++ mark :: rest) = ((fraction s).1, (fraction s).2 ++ mark :: rest) := by
  have hmark : mark ≠ '.' := by
    rintro rfl
    simp [punctuation?] at h
  cases s with
  | nil => simp [fraction, hmark]
  | cons c s =>
    by_cases hc : c = '.'
    · subst hc
      simp only [List.cons_append, fraction, takeWhile_mark h, dropWhile_mark h]
      split <;> rfl
    · simp [fraction, hc]

lemma exponent?_unsigned {c : Char} (hc : c = 'e' ∨ c = 'E') {s : List Char} (hminus : s.head? ≠ some '-')
    (hplus : s.head? ≠ some '+') :
    exponent? (c :: s) = if (s.takeWhile Char.isDigit).isEmpty then (none, c :: s)
      else (some (digitsValue (s.takeWhile Char.isDigit) : Int), s.dropWhile Char.isDigit) := by
  cases s with
  | nil => simp [exponent?, hc]
  | cons d s =>
    simp only [List.head?_cons, ne_eq, Option.some.injEq] at hminus hplus
    simp [exponent?, hc, hminus, hplus]

lemma exponent?_mark (h : punctuation? mark = some token) (s rest : List Char) :
    exponent? (s ++ mark :: rest) = ((exponent? s).1, (exponent? s).2 ++ mark :: rest) := by
  have hmark : mark ≠ 'e' ∧ mark ≠ 'E' ∧ mark ≠ '+' ∧ mark ≠ '-' := by
    refine ⟨?_, ?_, ?_, ?_⟩ <;> (rintro rfl; simp [punctuation?] at h)
  obtain ⟨he, hE, hplus, hminus⟩ := hmark
  cases s with
  | nil => simp [exponent?, he, hE]
  | cons c s =>
    by_cases hc : c = 'e' ∨ c = 'E'
    · by_cases hsign : s.head? = some '-' ∨ s.head? = some '+'
      · obtain ⟨unsigned, rfl | rfl⟩ : ∃ unsigned, s = '-' :: unsigned ∨ s = '+' :: unsigned := by
          cases s with
          | nil => simp at hsign
          | cons d unsigned => exact ⟨unsigned, by simpa using hsign⟩
        all_goals
          simp only [List.cons_append, exponent?, if_pos hc, takeWhile_mark h, dropWhile_mark h]
          split <;> rfl
      · rw [not_or] at hsign
        have hminus' : (s ++ mark :: rest).head? ≠ some '-' := by cases s <;> simp_all
        have hplus' : (s ++ mark :: rest).head? ≠ some '+' := by cases s <;> simp_all
        rw [List.cons_append, exponent?_unsigned hc hminus' hplus', exponent?_unsigned hc hsign.1 hsign.2,
          takeWhile_mark h, dropWhile_mark h]
        split <;> rfl
    · simp [exponent?, hc]

lemma readNumber_mark (h : punctuation? mark = some token) (negative : Bool) (s rest : List Char) :
    readNumber negative (s ++ mark :: rest) =
      (readNumber negative s).map fun (value, more) => (value, more ++ mark :: rest) := by
  simp only [readNumber, wholePart_mark h, fraction_mark h, exponent?_mark h]
  repeat' split
  all_goals rfl

lemma isPrefixOf_mark {word : List Char} (h : mark ∉ word) (s rest : List Char) :
    word.isPrefixOf (s ++ mark :: rest) = word.isPrefixOf s := by
  induction word generalizing s with
  | nil => simp
  | cons c word ih =>
    rw [List.mem_cons, not_or] at h
    cases s with
    | nil => simp [List.isPrefixOf_cons_cons, Ne.symm h.1]
    | cons d s => simp [List.isPrefixOf_cons_cons, ih h.2]

lemma find?_words_mark (h : punctuation? mark = some token) (s rest : List Char) :
    (words.find? fun (word, _) => word.toList.isPrefixOf (s ++ mark :: rest)) =
      words.find? fun (word, _) => word.toList.isPrefixOf s :=
  List.find?_congr fun word hword => isPrefixOf_mark (notMem_word h word hword) s rest

lemma readScalar_mark (h : punctuation? mark = some token) (s rest : List Char) :
    readScalar (s ++ mark :: rest) = (readScalar s).map fun (value, more) =>
    (value, more ++ mark :: rest) := by
  have hwords := find?_words_mark h s rest
  cases hfind : words.find? fun (word, _) => word.toList.isPrefixOf s with
  | some found =>
    obtain ⟨word, value⟩ := found
    have hprefix : word.toList.isPrefixOf s := by simpa using List.find?_some hfind
    have hle := (List.isPrefixOf_iff_prefix.mp hprefix).length_le
    rw [String.length_toList] at hle
    simp only [readScalar, hwords, hfind, List.drop_append_of_le_length hle, Except.map]
  | none =>
    have hmark : mark ≠ '-' := by
      rintro rfl
      simp [punctuation?] at h
    simp only [readScalar, hwords, hfind]
    cases s with
    | nil => simpa [hmark] using readNumber_mark h false [] rest
    | cons c s =>
      by_cases hc : c = '-'
      · subst hc
        exact readNumber_mark h true s rest
      · simpa [hc] using readNumber_mark h false (c :: s) rest

lemma fraction_suffix (s : List Char) : (fraction s).2 <:+ s := by
  unfold fraction
  split
  · dsimp only
    split
    · exact List.suffix_rfl
    · exact (List.dropWhile_suffix _).trans (List.suffix_cons _ _)
  · exact List.suffix_rfl

lemma exponent?_suffix (s : List Char) : (exponent? s).2 <:+ s := by
  cases s with
  | nil => exact List.suffix_rfl
  | cons c s =>
    by_cases hc : c = 'e' ∨ c = 'E'
    · have hdrop := List.dropWhile_suffix (l := s) Char.isDigit
      have hdropTail := List.dropWhile_suffix (l := s.tail) Char.isDigit
      unfold exponent?
      grind [List.suffix_cons, List.IsSuffix.trans]
    · simp [exponent?, hc]

lemma readNumber_suffix {negative : Bool} {s rest : List Char} {value : Data}
    (h : readNumber negative s = .ok (value, rest)) : rest <:+ s := by
  have hwhole : (wholePart s).2 <:+ s := by
    unfold wholePart
    split
    · exact List.suffix_cons _ _
    · exact List.dropWhile_suffix _
  have hrest : (exponent? (fraction (wholePart s).2).2).2 <:+ s :=
    (exponent?_suffix _).trans ((fraction_suffix _).trans hwhole)
  simp only [readNumber] at h
  split at h
  · cases h
  · split at h
    · split at h
      · cases h
      · cases h
        exact hrest
    · cases h
      exact hrest

lemma readScalar_suffix {s rest : List Char} {value : Data} (h : readScalar s = .ok (value, rest)) :
    rest <:+ s := by
  unfold readScalar at h
  split at h
  · cases h
    exact List.drop_suffix _ _
  · split at h
    · exact (readNumber_suffix h).trans (List.suffix_cons _ _)
    · exact readNumber_suffix h

lemma readScalar_append {literal before after : List Char} {value : Data} (hmark : mark ∈ before)
    (h : punctuation? mark = some token)
    (hread : readScalar (literal ++ (before ++ after)) = .ok (value, before ++ after))
    (other : List Char) : readScalar (literal ++ (before ++ other)) = .ok (value, before ++ other) := by
  obtain ⟨lead, trail, rfl⟩ := List.append_of_mem hmark
  have hsplit (rest : List Char) : literal ++ (lead ++ mark :: trail ++ rest) =
      literal ++ lead ++ mark :: (trail ++ rest) := by
    simp
  rw [hsplit, readScalar_mark h] at hread
  obtain ⟨⟨v, more⟩, hlead, heq⟩ := map_eq_ok.mp hread
  simp only [Prod.mk.injEq, List.append_assoc, List.cons_append] at heq
  obtain ⟨rfl, heq⟩ := heq
  rw [hsplit, readScalar_mark h, hlead, List.append_cancel_right heq]
  simp [Except.map]

lemma exists_readString {start offset : Nat} {s rest : List Char} {units : List Nat}
    (h : readString start offset s = .ok (units, rest)) :
    ∃ literal, s = literal ++ rest ∧ ∀ other, readString start offset (literal ++ other) =
      .ok (units, other) := by
  fun_induction readString start offset s generalizing units rest with
  | case2 offset more =>
    cases h
    exact ⟨['"'], rfl, fun other => rfl⟩
  | case3 offset a b c d next tail unit hunit ih =>
    obtain ⟨⟨units, rest⟩, hread, heq⟩ := map_eq_ok.mp h
    cases heq
    obtain ⟨literal, hliteral, hother⟩ := ih hread
    cases literal with
    | nil =>
      have hlength := readString_length hread
      rw [hliteral] at hlength
      exact absurd hlength (lt_irrefl _)
    | cons first literal =>
      refine ⟨'\\' :: 'u' :: a :: b :: c :: d :: first :: literal, by simp [hliteral], fun other => ?_⟩
      have hother := hother other
      rw [List.cons_append] at hother
      simp [readString, hunit, hother, Except.map]
  | case7 offset letter tail _ hletter unit hunit ih =>
    obtain ⟨⟨units, rest⟩, hread, heq⟩ := map_eq_ok.mp h
    cases heq
    obtain ⟨literal, hliteral, hother⟩ := ih hread
    have hu : letter ≠ 'u' := hletter
    refine ⟨'\\' :: letter :: literal, by simp [hliteral], fun other => ?_⟩
    simp [readString, hu, hunit, hother, Except.map]
  | case10 offset c tail hquote _ _ hend hslash hc ih =>
    obtain ⟨⟨units, rest⟩, hread, heq⟩ := map_eq_ok.mp h
    cases heq
    obtain ⟨literal, hliteral, hother⟩ := ih hread
    have hc' : c ≠ '\\' := by
      rintro rfl
      cases tail with
      | nil => exact hend rfl rfl
      | cons letter tail => exact hslash letter tail rfl rfl
    refine ⟨c :: literal, by simp [hliteral], fun other => ?_⟩
    simp [readString, hc', hc, hother, Except.map]
  | _ => cases h

/-! The tokens of a text up to a punctuation mark. -/

def Token.isMark : Token → Bool
  | .scalar _ | .badString _ | .badScalar _ | .finish => false
  | _ => true

lemma isMark_of_punctuation (h : punctuation? mark = some token) : token.isMark := by
  unfold punctuation? at h
  split at h <;> cases h <;> rfl

lemma tokens_badScalar {c : Char} {tail : List Char} {fault : Fault} (hspace : isSpace c = false)
    (hpunctuation : punctuation? c = none) (hquote : c ≠ '"') (h : readScalar (c :: tail) = .error fault)
    (offset : Nat) :
    tokens offset (c :: tail) = [(offset, .badScalar ⟨fault, offset⟩)] := by
  rw [tokens, hspace]
  simp only [Bool.false_eq_true, if_false, hpunctuation, if_neg hquote]
  split
  · rename_i hread
    rw [h] at hread
    cases hread
  · rename_i hread
    rw [h] at hread
    cases hread
    rfl

lemma forall_getLast?_cons {α : Type} {P : α → Prop} {first : α} {rest : List α}
    (h : ∀ last ∈ (first :: rest).getLast?, P last) : ∀ last ∈ rest.getLast?, P last := by
  intro last hlast
  refine h last ?_
  rw [List.getLast?_cons, Option.mem_def.mp hlast]
  rfl

/-- The tokens `front` are those of `before`, whatever follows it. -/
structure Decides (offset : Nat) (before : List Char) (front : List (Nat × Token)) : Prop where
  mark : front ≠ [] → ∃ mark ∈ before, (punctuation? mark).isSome
  append (other : List Char) : tokens offset (before ++ other) =
    front ++ tokens (offset + before.length) other

namespace Decides

variable {offset : Nat} {before : List Char} {front : List (Nat × Token)}

lemma nil (offset : Nat) : Decides offset [] [] := ⟨fun h => absurd rfl h, fun _ => rfl⟩

lemma space {c : Char} (hc : isSpace c) (h : Decides (offset + 1) before front) :
    Decides offset (c :: before) front := by
  refine ⟨fun hfront => ?_, fun other => ?_⟩
  · obtain ⟨mark, hmem, hmark⟩ := h.mark hfront
    exact ⟨mark, List.mem_cons_of_mem c hmem, hmark⟩
  · rw [List.cons_append, tokens_space hc, h.append, List.length_cons, Nat.add_assoc, Nat.add_comm 1]

lemma punctuation (hmark : punctuation? mark = some token) (h : Decides (offset + 1) before front) :
    Decides offset (mark :: before) ((offset, token) :: front) := by
  refine ⟨fun _ => ⟨mark, List.mem_cons_self, by rw [hmark]; rfl⟩, fun other => ?_⟩
  rw [List.cons_append, tokens_punctuation token hmark, h.append, List.length_cons,
    Nat.add_assoc, Nat.add_comm 1]
  rfl

lemma string {literal : List Char} {units : List Nat} (hfront : front ≠ [])
    (hread : ∀ other, readString offset (offset + 1) (literal ++ other) = .ok (units, other))
    (h : Decides (offset + 1 + literal.length) before front) :
    Decides offset ('"' :: (literal ++ before))
      ((offset, .scalar (.string (String.ofList (joinUnits units)))) :: front) := by
  refine ⟨fun _ => ?_, fun other => ?_⟩
  · obtain ⟨mark, hmem, hmark⟩ := h.mark hfront
    exact ⟨mark, List.mem_cons_of_mem _ (List.mem_append_right literal hmem), hmark⟩
  · have hlength : (literal ++ (before ++ other)).length - (before ++ other).length = literal.length := by
      simp
    rw [List.cons_append, List.append_assoc, tokens_string (hread _), hlength, h.append]
    simp only [List.cons_append, List.length_cons, List.length_append]
    congr 3
    omega

lemma scalar {c : Char} {literal after : List Char} {value : Data} (hspace : isSpace c = false)
    (hpunctuation : punctuation? c = none) (hquote : c ≠ '"') (hfront : front ≠ [])
    (hread : readScalar (c :: literal ++ (before ++ after)) = .ok (value, before ++ after))
    (h : Decides (offset + (literal.length + 1)) before front) :
    Decides offset (c :: literal ++ before) ((offset, .scalar value) :: front) := by
  obtain ⟨mark, hmem, hmark⟩ := h.mark hfront
  obtain ⟨token, htoken⟩ := Option.isSome_iff_exists.mp hmark
  refine ⟨fun _ => ⟨mark, List.mem_append_right _ hmem, hmark⟩, fun other => ?_⟩
  have hother := readScalar_append hmem htoken hread other
  have hlength : (literal ++ (before ++ other)).length + 1 - (before ++ other).length =
      literal.length + 1 := by
    simp only [List.length_append]
    omega
  rw [List.append_assoc, List.cons_append] at *
  rw [tokens_scalar hspace hpunctuation hquote hother, hlength, h.append]
  simp only [List.cons_append, List.length_cons, List.length_append]
  congr 3
  omega

end Decides

/-- A text whose tokens are `front` and `rest`, cut between them. -/
def Cut (offset : Nat) (s : List Char) (front rest : List (Nat × Token)) : Prop :=
  ∃ before after, s = before ++ after ∧ (∀ c ∈ after.head?, isSpace c = false) ∧ Decides offset before front ∧
    tokens (offset + before.length) after = rest

namespace Cut

variable {offset : Nat} {s tail : List Char} {front rest : List (Nat × Token)}

lemma space {c : Char} (hc : isSpace c) (h : Cut (offset + 1) s front rest) :
    Cut offset (c :: s) front rest := by
  obtain ⟨before, after, rfl, hhead, hbefore, hafter⟩ := h
  refine ⟨c :: before, after, rfl, hhead, hbefore.space hc, ?_⟩
  rwa [List.length_cons, Nat.add_comm _ 1, ← Nat.add_assoc]

lemma nil (offset : Nat) (s : List Char) : Cut offset s [] (tokens offset s) := by
  induction s generalizing offset with
  | nil => exact ⟨[], [], rfl, by simp, .nil offset, rfl⟩
  | cons c s ih =>
    by_cases hc : isSpace c
    · rw [tokens_space hc]
      exact (ih (offset + 1)).space hc
    · exact ⟨[], c :: s, rfl, by simpa using hc, .nil offset, rfl⟩

lemma punctuation (hmark : punctuation? mark = some token) (h : Cut (offset + 1) s front rest) :
    Cut offset (mark :: s) ((offset, token) :: front) rest := by
  obtain ⟨before, after, rfl, hhead, hbefore, hafter⟩ := h
  refine ⟨mark :: before, after, rfl, hhead, hbefore.punctuation hmark, ?_⟩
  rwa [List.length_cons, Nat.add_comm _ 1, ← Nat.add_assoc]

lemma string {units : List Nat} (hfront : front ≠ [])
    (hread : readString offset (offset + 1) s = .ok (units, tail))
    (h : Cut (offset + 1 + (s.length - tail.length)) tail front rest) :
    Cut offset ('"' :: s) ((offset, .scalar (.string (String.ofList (joinUnits units)))) :: front) rest := by
  obtain ⟨before, after, rfl, hhead, hbefore, hafter⟩ := h
  obtain ⟨literal, rfl, hother⟩ := exists_readString hread
  have hlength : (literal ++ (before ++ after)).length - (before ++ after).length = literal.length := by simp
  rw [hlength] at hbefore hafter
  refine ⟨_, after, by simp, hhead, hbefore.string hfront hother, ?_⟩
  rw [← hafter]
  simp only [List.length_cons, List.length_append]
  congr 1
  omega

lemma scalar {c : Char} {value : Data} (hspace : isSpace c = false) (hpunctuation : punctuation? c = none)
    (hquote : c ≠ '"') (hfront : front ≠ []) (hread : readScalar (c :: s) = .ok (value, tail))
    (h : Cut (offset + (s.length + 1 - tail.length)) tail front rest) :
    Cut offset (c :: s) ((offset, .scalar value) :: front) rest := by
  obtain ⟨before, after, rfl, hhead, hbefore, hafter⟩ := h
  have hshorter := readScalar_length hread
  obtain ⟨literal, hliteral⟩ := readScalar_suffix hread
  cases literal with
  | nil => simp [← hliteral] at hshorter
  | cons d literal =>
    rw [List.cons_append, List.cons.injEq] at hliteral
    obtain ⟨rfl, rfl⟩ := hliteral
    have hlength : (literal ++ (before ++ after)).length + 1 - (before ++ after).length =
        literal.length + 1 := by
      simp only [List.length_append]
      omega
    rw [hlength] at hbefore hafter
    refine ⟨_, after, by simp, hhead, hbefore.scalar hspace hpunctuation hquote hfront hread, ?_⟩
    rw [← hafter]
    simp only [List.cons_append, List.length_cons, List.length_append]
    congr 1
    omega

end Cut

lemma cut_tokens {offset : Nat} {s : List Char} {front rest : List (Nat × Token)}
    (h : tokens offset s = front ++ rest)
    (hrest : rest ≠ []) (hfront : ∀ last ∈ front.getLast?, last.2.isMark) : Cut offset s front rest := by
  by_cases hnil : front = []
  · subst hnil
    rw [List.nil_append] at h
    exact h ▸ .nil offset s
  obtain ⟨first, front, rfl⟩ := List.exists_cons_of_ne_nil hnil
  fun_induction tokens offset s generalizing first front with
  | case2 offset c tail hspace ih => exact (ih first front h hfront hnil).space hspace
  | case3 offset c tail hspace token hmark ih =>
    rw [List.cons_append, List.cons.injEq] at h
    obtain ⟨rfl, h⟩ := h
    refine Cut.punctuation hmark ?_
    cases front with
    | nil =>
      rw [List.nil_append] at h
      exact h ▸ .nil (offset + 1) tail
    | cons first front => exact ih first front h (forall_getLast?_cons hfront) (List.cons_ne_nil _ _)
  | case4 offset tail units rest' hread hspace hpunctuation ih =>
    rw [List.cons_append, List.cons.injEq] at h
    obtain ⟨rfl, h⟩ := h
    -- A string is no mark, so that it is not the last token in front.
    cases front with
    | nil => exact absurd (hfront _ rfl) (by simp [Token.isMark])
    | cons first front =>
      exact .string (List.cons_ne_nil _ _) hread
        (ih first front h (forall_getLast?_cons hfront) (List.cons_ne_nil _ _))
  | case6 offset c tail hspace hpunctuation hquote value rest' hread ih =>
    rw [List.cons_append, List.cons.injEq] at h
    obtain ⟨rfl, h⟩ := h
    have hspace' : isSpace c = false := by simpa using hspace
    cases front with
    | nil => exact absurd (hfront _ rfl) (by simp [Token.isMark])
    | cons first front =>
      exact .scalar hspace' hpunctuation hquote (List.cons_ne_nil _ _) hread
        (ih first front h (forall_getLast?_cons hfront) (List.cons_ne_nil _ _))
  | _ => simp_all

lemma tokens_head {offset o : Nat} {s : List Char} {rest : List (Nat × Token)}
    (hs : ∀ c ∈ s.head?, isSpace c = false) (h : tokens offset s = (o, token) :: rest) :
    o = offset ∧ (s = [] → token = .finish ∧ rest = []) ∧
      ∀ failure, token = .badScalar failure → failure.offset = offset ∧
      readScalar s = .error failure.fault ∧ rest = [] := by
  cases s with
  | nil =>
    rw [tokens] at h
    cases h
    simp
  | cons c tail =>
    rw [tokens, hs c rfl] at h
    simp only [Bool.false_eq_true, if_false] at h
    split at h
    · rename_i hmark
      cases h
      have := isMark_of_punctuation hmark
      refine ⟨rfl, by simp, ?_⟩
      rintro failure rfl
      cases this
    · split at h <;> split at h <;> cases h
      · simp
      · simp
      · simp
      · rename_i hread
        simp [hread]

lemma fault_of_readString {start offset : Nat} {s : List Char} {failure : Failure}
    (h : readString start offset s = .error failure) :
    failure.fault ≠ .expectedValue ∧ ∀ count, failure.fault ≠ .tooManyDigits count := by
  have hmap {α β : Type} {f : α → β} {x : Except Failure α} (h : x.map f = .error failure) :
      x = .error failure := by
    cases x <;> simp_all [Except.map]
  fun_induction readString start offset s with
  | case2 => cases h
  | case3 _ _ _ _ _ _ _ _ _ ih | case7 _ _ _ _ _ _ _ ih | case10 _ _ _ _ _ _ _ _ _ ih => exact ih (hmap h)
  | _ =>
    cases h
    simp

lemma fault_of_badString {offset o : Nat} {s : List Char} {failure : Failure}
    (h : (o, .badString failure) ∈ tokens offset s) :
    failure.fault ≠ .expectedValue ∧ ∀ count, failure.fault ≠ .tooManyDigits count := by
  fun_induction tokens offset s with
  | case2 offset c tail hspace ih => exact ih h
  | case3 offset c tail hspace token hmark ih =>
    rcases List.mem_cons.mp h with h | h
    · cases h
      cases isMark_of_punctuation hmark
    · exact ih h
  | case4 offset tail units rest hread hspace hpunctuation ih => exact ih (by simpa using h)
  | case6 offset c tail hspace hpunctuation hquote value rest hread ih => exact ih (by simpa using h)
  | case5 offset tail failure hread =>
    simp only [List.mem_singleton, Prod.mk.injEq, Token.badString.injEq] at h
    exact h.2 ▸ fault_of_readString hread
  | _ => simp at h

/-! The stack machine up to a place where a value is due. -/

def State.awaitsValue : State → Bool
  | .value _ | .firstItem _ => true
  | _ => false

variable {state next : State} {offset o : Nat}

lemma awaitsValue_complete (value : Data) (outer : List Frame) :
    (complete value outer).awaitsValue = false := by
  cases outer with
  | nil => rfl
  | cons frame outer => cases frame <;> rfl

lemma isMark_of_startValue {outer : List Frame} (h : startValue o token outer = .ok next)
    (hnext : next.awaitsValue) :
    token.isMark := by
  cases token with
  | scalar value =>
    cases h
    rw [awaitsValue_complete] at hnext
    cases hnext
  | openList | openMap => rfl
  | _ => cases h

lemma isMark_of_step (h : step state (o, token) = .ok next) (hnext : next.awaitsValue) : token.isMark := by
  cases state with
  | value outer => exact isMark_of_startValue h hnext
  | firstItem outer =>
    by_cases hclose : token = .closeList
    · rw [hclose]
      rfl
    · have hstart : startValue o token (.list [] :: outer) = .ok next := by
        rw [← h]
        cases token <;> first | rfl | exact absurd rfl hclose
      exact isMark_of_startValue hstart hnext
  | key first entries outer =>
    cases token with
    | scalar value =>
      cases value <;> cases h
      cases hnext
    | badString | badScalar | finish => cases h
    | _ => rfl
  | done value =>
    cases token with
    | finish =>
      cases h
      cases hnext
    | _ => cases h
  | _ =>
    cases token with
    | scalar | badString | badScalar | finish => cases h
    | _ => rfl

lemma isMark_of_run {front : List (Nat × Token)} (h : run state front = .ok next) (hnext : next.awaitsValue) :
    ∀ last ∈ front.getLast?, last.2.isMark := by
  rcases front.eq_nil_or_concat with rfl | ⟨front, last, rfl⟩
  · simp
  · rw [List.concat_eq_append, run_append] at h
    obtain ⟨reached, -, h⟩ := bind_eq_ok.mp h
    obtain ⟨after, hstep, h⟩ := bind_eq_ok.mp h
    cases h
    have hlast := isMark_of_step hstep hnext
    simpa using hlast

lemma exists_step_of_run {ts : List (Nat × Token)} {failure : Failure} (h : run state ts = .error failure) :
    ∃ front token rest reached, ts = front ++ token :: rest ∧ run state front = .ok reached ∧
      step reached token = .error failure := by
  induction ts generalizing state with
  | nil => cases h
  | cons first ts ih =>
    rw [run] at h
    cases hstep : step state first with
    | error fault =>
      rw [hstep] at h
      cases h
      exact ⟨[], first, ts, state, rfl, rfl, hstep⟩
    | ok next =>
      rw [hstep] at h
      obtain ⟨front, token, rest, reached, rfl, hrun, hfault⟩ := ih h
      exact ⟨first :: front, token, rest, reached, rfl, by rw [run, hstep]; exact hrun, hfault⟩

lemma error_of_startValue {failure : Failure} {outer : List Frame}
    (h : startValue o token outer = .error failure)
    (htoken : token ≠ .badString failure) : failure = ⟨.expectedValue, o⟩ ∨ token = .badScalar failure := by
  cases token with
  | scalar | openList | openMap => cases h
  | badString =>
    cases h
    exact absurd rfl htoken
  | badScalar =>
    cases h
    exact .inr rfl
  | _ =>
    cases h
    exact .inl rfl

lemma awaitsValue_of_step {failure : Failure} (h : step state (o, token) = .error failure)
    (hfault : failure.fault = .expectedValue ∨ ∃ count, failure.fault = .tooManyDigits count)
    (htoken : token ≠ .badString failure) :
    state.awaitsValue ∧ (failure = ⟨.expectedValue, o⟩ ∨ token = .badScalar failure) := by
  cases state with
  | value outer => exact ⟨rfl, error_of_startValue h htoken⟩
  | firstItem outer =>
    have hstart : startValue o token (.list [] :: outer) = .error failure := by
      cases token <;> first | exact h | cases h
    exact ⟨rfl, error_of_startValue hstart htoken⟩
  | key first entries outer =>
    cases token with
    | badString =>
      cases h
      exact absurd rfl htoken
    | scalar value => cases value <;> cases h <;> simp at hfault
    | closeMap =>
      cases first <;> cases h
      simp at hfault
    | _ =>
      cases h
      simp at hfault
  | _ =>
    cases token <;> first | (cases h; done) | (cases h; simp at hfault)

/-- Text that lacks nothing but a value at its end, with its tokens. -/
def LacksValue (s : List Char) (front : List (Nat × Token)) (reached : State) : Prop :=
  s.head? ≠ some '\ufeff' ∧ Decides 0 s front ∧ run (.value []) front = .ok reached ∧ reached.awaitsValue

variable {s before : List Char}

lemma head?_append_ne {before after : List Char} (h : (before ++ after).head? ≠ some '\ufeff') :
    before.head? ≠ some '\ufeff' := by
  cases before with
  | nil => simp
  | cons c before => exact h

lemma exists_done {offset : Nat} (h : run state (tokens offset s) = .ok next) :
    ∃ value, next = .done value := by
  -- each kind of text is followed to its last token, which every state but one refuses
  fun_induction tokens offset s generalizing state with
  | case1 offset =>
    obtain ⟨after, hstep, hrun⟩ := bind_eq_ok.mp h
    cases hrun
    cases state <;> cases hstep
    exact ⟨_, rfl⟩
  | case2 offset c tail hspace ih => exact ih h
  | case3 | case4 | case6 =>
    obtain ⟨after, -, hrun⟩ := bind_eq_ok.mp h
    rename_i ih
    exact ih hrun
  | case5 | case7 =>
    obtain ⟨after, hstep, -⟩ := bind_eq_ok.mp h
    cases state <;> cases hstep

lemma exists_lacksValue {failure : Failure} (h : parse s = .error failure)
    (hfault : failure.fault = .expectedValue ∨ ∃ count, failure.fault = .tooManyDigits count) :
    ∃ before after front reached, s = before ++ after ∧ LacksValue before front reached ∧
    failure.offset = before.length ∧
      (failure = ⟨.expectedValue, before.length⟩ ∨ readScalar after = .error failure.fault) := by
  rw [parse] at h
  split at h
  · cases h
    simp at hfault
  rename_i hmark
  cases hrun : run (.value []) (tokens 0 s) with
  | ok next =>
    obtain ⟨value, rfl⟩ := exists_done hrun
    rw [hrun] at h
    cases h
  | error fault =>
    rw [hrun] at h
    cases h
    obtain ⟨front, ⟨o, token⟩, rest, reached, htokens, hfront, hstep⟩ := exists_step_of_run hrun
    -- the faults of a string are others
    have htoken : token ≠ .badString failure := by
      rintro rfl
      have hmem : (o, Token.badString failure) ∈ tokens 0 s :=
        htokens ▸ List.mem_append_right _ List.mem_cons_self
      have hnot := fault_of_badString hmem
      rcases hfault with hvalue | ⟨count, hdigits⟩
      · exact hnot.1 hvalue
      · exact hnot.2 count hdigits
    obtain ⟨hreached, hkind⟩ := awaitsValue_of_step hstep hfault htoken
    obtain ⟨before, after, rfl, hhead, hbefore, hafter⟩ :=
      cut_tokens htokens (List.cons_ne_nil _ _) (isMark_of_run hfront hreached)
    rw [Nat.zero_add] at hafter
    obtain ⟨rfl, -, hscalar⟩ := tokens_head hhead hafter
    refine ⟨before, after, front, reached, rfl, ⟨head?_append_ne hmark, hbefore, hfront, hreached⟩, ?_⟩
    rcases hkind with rfl | hbad
    · exact ⟨rfl, .inl rfl⟩
    · obtain ⟨hoffset, hread, -⟩ := hscalar failure hbad
      exact ⟨hoffset, .inr hread⟩

lemma parse_of_lacksValue {front : List (Nat × Token)} {reached : State}
    (h : LacksValue before front reached) :
    parse before = .error ⟨.expectedValue, before.length⟩ := by
  obtain ⟨hhead, hfront, hrun, hreached⟩ := h
  have htokens : tokens 0 before = front ++ [(before.length, .finish)] := by
    have happend := hfront.append []
    rw [List.append_nil, Nat.zero_add, tokens] at happend
    exact happend
  have hstep : step reached (before.length, .finish) = .error ⟨.expectedValue, before.length⟩ := by
    cases reached <;> first | rfl | cases hreached
  rw [parse, if_neg hhead, htokens, run_append, hrun, ok_bind, run, hstep]
  rfl

/-! The number itself. -/

lemma fraction_eq {s : List Char} (h : (fraction s).1 = []) : fraction s = ([], s) := by
  unfold fraction at h ⊢
  split
  · dsimp only at h ⊢
    split
    · rfl
    · simp_all
  · rfl

lemma readNumber_overlong {count : Nat} {digits after : List Char} (negative : Bool)
    (hdigits : ∀ c ∈ digits, c.isDigit)
    (hleading : digits.head? ≠ some '0') (hcount : digits.length = count) (hmany : maxDigits < count)
    (hends : ∀ c ∈ after.head?, c.isDigit = false) (hplaces : (fraction after).1 = [])
    (hpower : (exponent? after).1 = none) :
    readNumber negative (digits ++ after) = .error (.tooManyDigits count) := by
  have hne : digits ≠ [] := by
    rintro rfl
    rw [← hcount] at hmany
    exact absurd hmany (Nat.not_lt_zero _)
  simp only [readNumber, wholePart_append hdigits hne hleading hends, fraction_eq hplaces]
  simp [hne, hpower, hcount, hmany]

lemma head?_takeWhile_ne {p : Char → Bool} {c : Char} {s : List Char} (h : s.head? ≠ some c) :
    (s.takeWhile p).head? ≠ some c := by
  intro htake
  obtain ⟨rest, hrest⟩ := List.head?_eq_some_iff.mp htake
  obtain ⟨after, hs⟩ := List.takeWhile_prefix (l := s) p
  rw [hrest] at hs
  exact h (by rw [← hs]; rfl)

lemma overlong_of_readNumber {count : Nat} {negative : Bool} {s sign : List Char}
    (hsign : sign = [] ∨ sign = ['-'])
    (h : readNumber negative s = .error (.tooManyDigits count)) : Overlong count (sign ++ s) := by
  simp only [readNumber] at h
  split at h
  · cases h
  split at h
  swap
  · cases h
  rename_i hplain
  split at h
  swap
  · cases h
  rename_i hmany
  cases h
  have hleading : s.head? ≠ some '0' := by
    intro hzero
    obtain ⟨rest, rfl⟩ := List.head?_eq_some_iff.mp hzero
    exact absurd hmany (by simp [wholePart, maxDigits])
  rw [wholePart_eq hleading] at hplain hmany ⊢
  have hplaces : (fraction (s.dropWhile Char.isDigit)).1 = [] := by simpa using hplain.1
  have hpower : (exponent? (s.dropWhile Char.isDigit)).1 = none := by
    simpa [fraction_eq hplaces] using hplain.2
  have hnumber :=
    Overlong.mk hsign (fun c hc => List.mem_takeWhile_imp hc) (head?_takeWhile_ne hleading) rfl hmany
    (Text.head?_dropWhile Char.isDigit s) hplaces hpower
  rwa [List.append_assoc, List.takeWhile_append_dropWhile] at hnumber

lemma Overlong.head_cases {count : Nat} {number : List Char} (h : Overlong count number) :
    ∃ c tail, c.isDigit ∧ (number = c :: tail ∨ number = '-' :: c :: tail) := by
  obtain ⟨rfl | rfl, hdigits, -, hcount, hmany, -, -, -⟩ := h <;> rename_i digits after <;> cases digits with
  | nil => exact absurd (hcount ▸ hmany) (Nat.not_lt_zero _)
  | cons c digits => exact ⟨c, digits ++ after, hdigits c List.mem_cons_self, by simp⟩

lemma Overlong.find?_words {count : Nat} {number : List Char} (h : Overlong count number) :
    (words.find? fun (word, _) => word.toList.isPrefixOf number) = none := by
  obtain ⟨c, tail, hc, hnumber⟩ := h.head_cases
  have hletters : ∀ letter ∈ ['n', 't', 'f', 'N', 'I', '-'], letter ≠ c := by
    have hall : ['n', 't', 'f', 'N', 'I', '-'].all (!·.isDigit) := by decide
    rintro letter hletter rfl
    have hdigit := List.all_eq_true.mp hall letter hletter
    rw [hc] at hdigit
    cases hdigit
  simp only [List.forall_mem_cons] at hletters
  rcases hnumber with rfl | rfl
  · simp [words, List.isPrefixOf_cons_cons, hletters]
  · simp [words, List.isPrefixOf_cons_cons, hletters]

lemma readScalar_overlong {count : Nat} {number : List Char} (h : Overlong count number) :
    readScalar number = .error (.tooManyDigits count) := by
  have hwords := h.find?_words
  simp only [readScalar, hwords]
  obtain ⟨rfl | rfl, hdigits, hleading, hcount, hmany, hends, hplaces, hpower⟩ := h
  · have hread := readNumber_overlong false hdigits hleading hcount hmany hends hplaces hpower
    rename_i digits after
    cases digits with
    | nil => exact absurd (hcount ▸ hmany) (Nat.not_lt_zero _)
    | cons c digits =>
      have hminus : c ≠ '-' := by
        rintro rfl
        cases hdigits '-' List.mem_cons_self
      simpa [hminus] using hread
  · exact readNumber_overlong true hdigits hleading hcount hmany hends hplaces hpower

lemma overlong_of_readScalar {count : Nat} {number : List Char}
    (h : readScalar number = .error (.tooManyDigits count)) :
    Overlong count number := by
  unfold readScalar at h
  split at h
  · cases h
  · split at h
    · exact overlong_of_readNumber (.inr rfl) h
    · exact overlong_of_readNumber (.inl rfl) h

lemma tokens_overlong {count : Nat} {number : List Char} (h : Overlong count number) (offset : Nat) :
    tokens offset number = [(offset, .badScalar ⟨.tooManyDigits count, offset⟩)] := by
  have hread := readScalar_overlong h
  obtain ⟨c, tail, hc, hnumber⟩ := h.head_cases
  rcases hnumber with rfl | rfl
  · have hspace : isSpace c = false := by
      rw [Bool.eq_false_iff]
      intro hspace
      simp only [isSpace, Bool.or_eq_true, decide_eq_true_eq] at hspace
      rcases hspace with ((rfl | rfl) | rfl) | rfl <;> cases hc
    have hpunctuation : punctuation? c = none := by
      cases hmark : punctuation? c with
      | none => rfl
      | some token =>
        rw [isDigit_mark hmark] at hc
        cases hc
    have hquote : c ≠ '"' := by
      rintro rfl
      cases hc
    exact tokens_badScalar hspace hpunctuation hquote hread offset
  · exact tokens_badScalar (by decide) (by decide) (by decide) hread offset

/--
Reading stops at a whole number with too many digits exactly if one stands where the text in front of it
lacks a value.
-/
theorem parse_eq_tooManyDigits_iff {count offset : Nat} : parse s = .error ⟨.tooManyDigits count, offset⟩ ↔
    ∃ before number, s = before ++ number ∧ before.length = offset ∧
    parse before = .error ⟨.expectedValue, offset⟩ ∧
      Overlong count number := by
  constructor
  · intro h
    obtain ⟨before, after, front, reached, rfl, hbefore, hoffset, hkind⟩ :=
      exists_lacksValue h (.inr ⟨count, rfl⟩)
    rcases hkind with hkind | hread
    · cases hkind
    · refine ⟨before, after, rfl, hoffset.symm, ?_, overlong_of_readScalar hread⟩
      rw [parse_of_lacksValue hbefore, ← hoffset]
  · rintro ⟨before, number, rfl, rfl, hparse, hnumber⟩
    obtain ⟨lead, after, front, reached, rfl, hlead, hoffset, -⟩ := exists_lacksValue hparse (.inl rfl)
    have hafter : after = [] := by
      simpa using hoffset
    subst hafter
    rw [List.append_nil] at *
    obtain ⟨hhead, hfront, hrun, hreached⟩ := hlead
    have htokens : tokens 0 (lead ++ number) =
        front ++ [(lead.length, .badScalar ⟨.tooManyDigits count, lead.length⟩)] := by
      rw [hfront.append, Nat.zero_add, tokens_overlong hnumber]
    have hstep : step reached (lead.length, .badScalar ⟨.tooManyDigits count, lead.length⟩) =
        .error ⟨.tooManyDigits count, lead.length⟩ := by
      cases reached <;> first | rfl | cases hreached
    have hmark : (lead ++ number).head? ≠ some '\ufeff' := by
      cases lead with
      | nil =>
        obtain ⟨c, tail, hc, rfl | rfl⟩ := hnumber.head_cases
        · rw [List.nil_append, List.head?_cons, ne_eq, Option.some.injEq]
          rintro rfl
          cases hc
        · simp
      | cons c lead => exact hhead
    rw [parse, if_neg hmark, htokens, run_append, hrun, ok_bind, run, hstep]
    rfl

end ApiScaffold.Json
