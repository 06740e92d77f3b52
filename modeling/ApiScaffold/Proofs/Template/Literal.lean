import ApiScaffold.Proofs.Json.Quoted
import ApiScaffold.Template.Render
import Mathlib.Data.List.Basic

namespace ApiScaffold.Literal

def codeUnits (n : Nat) : List Nat :=
  if n < 0x10000 then [n] else [0xD800 + (n - 0x10000) / 0x400, 0xDC00 + (n - 0x10000) % 0x400]

def unitsOf (s : List Char) : List Nat := s.flatMap fun c => codeUnits c.toNat

def lineTerminators : List Char := ['\n', '\r', '\u2028', '\u2029']

def namedEscapes : List (Char × Nat) := [('b', 8), ('t', 9), ('n', 10), ('v', 11), ('f', 12), ('r', 13)]

def readUnicodeEscape : List Char → Option (List Nat × List Char)
  | '\x7b' :: s =>
    match s.takeWhile (· != '\x7d'), s.dropWhile (· != '\x7d') with
    | c :: digits, _ :: rest => do
      let n ← Text.hexValue? (c :: digits)
      if n ≤ 0x10FFFF then some (codeUnits n, rest) else none
    | _, _ => none
  | a :: b :: c :: d :: rest => (Text.hexValue? [a, b, c, d]).map fun unit => ([unit], rest)
  | _ => none

def readEscape : List Char → Option (List Nat × List Char)
  | [] => none
  | 'u' :: rest => readUnicodeEscape rest
  | 'x' :: a :: b :: rest => (Text.hexValue? [a, b]).map fun unit => ([unit], rest)
  | ['x'] | ['x', _] => none
  | '\r' :: '\n' :: rest => some ([], rest)
  | c :: rest =>
    if c ∈ lineTerminators then some ([], rest)
    else if c.isDigit then if c = '0' ∧ ¬ rest.head?.any Char.isDigit then some ([0], rest) else none
    else some ((namedEscapes.lookup c).elim (codeUnits c.toNat) ([·]), rest)

lemma length_of_readUnicodeEscape {s rest : List Char} {units : List Nat}
    (h : readUnicodeEscape s = some (units, rest)) : rest.length < s.length := by
  unfold readUnicodeEscape at h
  split at h
  · rename_i s
    have hdrop := (List.dropWhile_sublist (l := s) (· != '\x7d')).length_le
    split at h
    · rename_i hrest
      simp only [Option.bind_eq_bind, Option.bind_eq_some_iff, Option.ite_none_right_eq_some] at h
      obtain ⟨n, -, -, h⟩ := h
      cases h
      simp only [hrest, List.length_cons] at hdrop ⊢
      omega
    · cases h
  · simp only [Option.map_eq_some_iff, Prod.mk.injEq] at h
    obtain ⟨unit, -, -, rfl⟩ := h
    simp only [List.length_cons]
    omega
  · cases h

lemma length_of_readEscape {s rest : List Char} {units : List Nat} (h : readEscape s = some (units, rest)) :
    rest.length < s.length := by
  unfold readEscape at h
  split at h
  · cases h
  · exact Nat.lt_succ_of_lt (length_of_readUnicodeEscape h)
  · simp only [Option.map_eq_some_iff, Prod.mk.injEq] at h
    obtain ⟨unit, -, -, rfl⟩ := h
    simp only [List.length_cons]
    omega
  · cases h
  · cases h
  · cases h
    simp only [List.length_cons]
    omega
  · simp only [List.length_cons]
    split_ifs at h <;> cases h <;> omega

def prepend (units : List Nat) (result : Option (List Nat × List Char)) : Option (List Nat × List Char) :=
  result.map fun (following, tail) => (units ++ following, tail)

lemma prepend_prepend (units more : List Nat) (result : Option (List Nat × List Char)) :
    prepend units (prepend more result) = prepend (units ++ more) result := by
  cases result with
  | none => rfl
  | some result => simp [prepend]

def readBody (s : List Char) : Option (List Nat × List Char) :=
  match s with
  | [] => none
  | '\'' :: rest => some ([], rest)
  | '\\' :: rest =>
    match _h : readEscape rest with
    | some (units, more) => prepend units (readBody more)
    | none => none
  | c :: rest =>
    if c ∈ lineTerminators then none
    else prepend (codeUnits c.toNat) (readBody rest)
termination_by s.length
decreasing_by
  · have := length_of_readEscape _h
    simp only [List.length_cons]
    omega
  · simp

def read? : List Char → Option (List Nat × List Char)
  | '\'' :: s => readBody s
  | _ => none

lemma readBody_escape {s more : List Char} {units : List Nat} (h : readEscape s = some (units, more)) :
    readBody ('\\' :: s) = prepend units (readBody more) := by
  rw [readBody]
  split
  · simp_all
  · simp_all

lemma readBody_plain {c : Char} (hquote : c ≠ '\'') (hslash : c ≠ '\\') (hc : c ∉ lineTerminators)
    (s : List Char) :
    readBody (c :: s) = prepend (codeUnits c.toNat) (readBody s) := by
  rw [readBody]
  · rw [if_neg hc]
  · simpa using hquote
  · simpa using hslash

lemma readBody_quote (s : List Char) : readBody ('\'' :: s) = some ([], s) := by
  rw [readBody]

def Printable (c : Char) : Prop := ' ' ≤ c ∧ c ≤ '~'

instance (c : Char) : Decidable (Printable c) := inferInstanceAs (Decidable (_ ∧ _))

lemma Printable.notMem_lineTerminators {c : Char} (h : Printable c) : c ∉ lineTerminators := by
  simp only [lineTerminators, List.mem_cons, List.not_mem_nil, or_false]
  rintro (rfl | rfl | rfl | rfl)
  · exact absurd h.1 (by decide)
  · exact absurd h.1 (by decide)
  · exact absurd h.2 (by decide)
  · exact absurd h.2 (by decide)

lemma Printable.codeUnits {c : Char} (h : Printable c) : codeUnits c.toNat = [c.toNat] := by
  have hc : c.toNat ≤ '~'.toNat := h.2
  exact if_pos (lt_of_le_of_lt hc (by decide))

lemma readEscape_hex {unit : Nat} (h : unit < 0x10000) (rest : List Char) :
    readEscape ('u' :: Text.hex 4 unit ++ rest) = some ([unit], rest) := by
  obtain ⟨a, b, c, d, hhex⟩ : ∃ a b c d, Text.hex 4 unit = [a, b, c, d] := ⟨_, _, _, _, rfl⟩
  have hvalue := Text.hexValue?_hex 4 unit
  have hbrace : '\x7b' ∉ Text.hex 4 unit := Text.notMem_hex (by decide) 4 unit
  rw [Nat.mod_eq_of_lt (by omega), hhex] at hvalue
  have ha : a ≠ '\x7b' := by
    rintro rfl
    simp [hhex] at hbrace
  simp [hhex, readEscape, readUnicodeEscape, hvalue]

def letterEscapes : List (Char × Nat) :=
  [('\\', 0x5C), ('\'', 0x27), ('b', 8), ('f', 12), ('n', 10), ('r', 13), ('t', 9)]

lemma readEscape_letter {entry : Char × Nat} (h : entry ∈ letterEscapes) (rest : List Char) :
    readEscape (entry.1 :: rest) = some ([entry.2], rest) := by
  simp only [letterEscapes, List.mem_cons, List.not_mem_nil, or_false] at h
  rcases h with rfl | rfl | rfl | rfl | rfl | rfl | rfl <;> rfl

inductive Spells : List Char → List Nat → Prop
  | nil : Spells [] []
  | plain {c : Char} {s units} (hc : Printable c) (hquote : c ≠ '\'') (hslash : c ≠ '\\')
    (h : Spells s units) :
      Spells (c :: s) (c.toNat :: units)
  | letter {entry s units} (he : entry ∈ letterEscapes) (h : Spells s units) :
      Spells ('\\' :: entry.1 :: s) (entry.2 :: units)
  | unicode {unit s units} (hunit : unit < 0x10000) (h : Spells s units) :
      Spells (Json.unicodeEscape unit ++ s) (unit :: units)

namespace Spells

variable {s t : List Char} {units more : List Nat}

lemma append (hs : Spells s units) (ht : Spells t more) : Spells (s ++ t) (units ++ more) := by
  induction hs with
  | nil => exact ht
  | plain hc hquote hslash _ ih => exact .plain hc hquote hslash ih
  | letter he _ ih => exact .letter he ih
  | unicode hunit _ ih =>
    rw [List.append_assoc]
    exact .unicode hunit ih

lemma flatMap {f : Char → List Char} {g : Char → List Nat} (h : ∀ c, Spells (f c) (g c)) (s : List Char) :
    Spells (s.flatMap f) (s.flatMap g) := by
  induction s with
  | nil => exact .nil
  | cons c s ih => exact (h c).append ih

lemma printable_unicodeEscape (unit : Nat) : ∀ c ∈ Json.unicodeEscape unit, Printable c := by
  refine List.forall_mem_cons.mpr ⟨by decide, List.forall_mem_cons.mpr ⟨by decide, fun c hc => ?_⟩⟩
  by_contra hprintable
  refine Text.notMem_hex ?_ _ _ hc
  simp only [Printable, Char.le_def, UInt32.le_iff_toNat_le, Char.reduceVal, UInt32.reduceToNat] at hprintable
  simp only [Text.hexDigitValue?, Char.le_def, UInt32.le_iff_toNat_le, Char.reduceVal, UInt32.reduceToNat]
  rw [if_neg (by omega), if_neg (by omega), if_neg (by omega)]

lemma printable (h : Spells s units) : ∀ c ∈ s, Printable c := by
  induction h with
  | nil => exact List.forall_mem_nil _
  | plain hc _ _ _ ih => exact List.forall_mem_cons.mpr ⟨hc, ih⟩
  | letter he _ ih =>
    have hletter : ∀ entry ∈ letterEscapes, Printable entry.1 := by decide
    exact List.forall_mem_cons.mpr ⟨by decide, List.forall_mem_cons.mpr ⟨hletter _ he, ih⟩⟩
  | unicode _ _ ih => exact List.forall_mem_append.mpr ⟨printable_unicodeEscape _, ih⟩

lemma readBody_append (h : Spells s units) (rest : List Char) :
    readBody (s ++ rest) = prepend units (readBody rest) := by
  induction h with
  | nil => simp [prepend]
  | plain hc hquote hslash _ ih =>
    rw [List.cons_append, readBody_plain hquote hslash hc.notMem_lineTerminators, ih, hc.codeUnits,
      prepend_prepend]
    rfl
  | letter he _ ih =>
    rw [List.cons_append, List.cons_append, readBody_escape (readEscape_letter he _), ih, prepend_prepend]
    rfl
  | unicode hunit _ ih =>
    rw [Json.unicodeEscape, List.append_assoc, List.cons_append, readBody_escape (readEscape_hex hunit _), ih,
      prepend_prepend]
    rfl

end Spells

lemma mem_letterEscapes {c letter : Char} (h : Json.shortEscape? c = some letter) (hquote : c ≠ '"') :
    (letter, c.toNat) ∈ letterEscapes := by
  have hcode {n : Nat} (hn : c.toNat = n) (hmem : (letter, n) ∈ letterEscapes) :
      (letter, c.toNat) ∈ letterEscapes :=
    hn ▸ hmem
  unfold Json.shortEscape? at h
  split_ifs at h with h1 h2 h3 h4 h5 h6 h7 <;> cases h
  · exact absurd h1 hquote
  · exact hcode (congrArg Char.toNat h2) (by decide)
  · exact hcode (congrArg Char.toNat h3) (by decide)
  · exact hcode (congrArg Char.toNat h4) (by decide)
  · exact hcode (congrArg Char.toNat h5) (by decide)
  · exact hcode h6 (by decide)
  · exact hcode h7 (by decide)

lemma escapeAscii_cases (c : Char) :
    (∃ letter, Json.escapeAscii c = ['\\', letter] ∧ Json.shortEscape? c = some letter) ∨
    Json.escapeAscii c = (codeUnits c.toNat).flatMap Json.unicodeEscape ∨
    (Printable c ∧ c ≠ '"' ∧ c ≠ '\\' ∧ Json.escapeAscii c = [c]) := by
  cases hs : Json.shortEscape? c with
  | some letter => exact .inl ⟨letter, by simp [Json.escapeAscii, hs], rfl⟩
  | none =>
    by_cases hc : c.toNat < 0x20 ∨ 0x7E < c.toNat
    · refine .inr (.inl ?_)
      simp only [Json.escapeAscii, hs, hc, if_true, Json.unicodeEscapes, codeUnits]
      split <;> simp
    · obtain ⟨hlow, hhigh⟩ := not_or.mp hc
      refine .inr
        (.inr ⟨⟨Nat.le_of_not_lt hlow, Nat.le_of_not_lt hhigh⟩, ?_, ?_, by simp [Json.escapeAscii, hs, hc]⟩)
      · rintro rfl
        cases hs
      · rintro rfl
        cases hs

lemma lt_of_mem_codeUnits {c : Char} {unit : Nat} (h : unit ∈ codeUnits c.toNat) : unit < 0x10000 := by
  have hc : c.toNat < 0xD800 ∨ 0xDFFF < c.toNat ∧ c.toNat < 0x110000 := c.valid
  unfold codeUnits at h
  split_ifs at h with hn
  · rwa [List.mem_singleton.mp h]
  · simp only [List.mem_cons, List.not_mem_nil, or_false] at h
    omega

lemma spells_unicodeEscapes {units : List Nat} (h : ∀ unit ∈ units, unit < 0x10000) :
    Spells (units.flatMap Json.unicodeEscape) units := by
  induction units with
  | nil => exact .nil
  | cons unit units ih =>
    obtain ⟨hunit, hunits⟩ := List.forall_mem_cons.mp h
    exact .unicode hunit (ih hunits)

lemma spells_escape (c : Char) : Spells (escape c) (codeUnits c.toNat) := by
  unfold escape
  split_ifs with hquote hdouble
  · subst hquote
    exact @Spells.letter ('\'', 0x27) _ _ (by decide) .nil
  · subst hdouble
    exact .plain (by decide) (by decide) (by decide) .nil
  · rcases escapeAscii_cases c with ⟨letter, he, hletter⟩ | he | ⟨hc, -, hslash, he⟩
    · have hmem := mem_letterEscapes hletter hdouble
      have hunits : codeUnits c.toNat = [c.toNat] :=
        if_pos ((by decide : ∀ entry ∈ letterEscapes, entry.2 < 0x10000) _ hmem)
      rw [he, hunits]
      exact .letter hmem .nil
    · rw [he]
      exact spells_unicodeEscapes fun _ => lt_of_mem_codeUnits
    · rw [he, hc.codeUnits]
      exact .plain hc hquote hslash .nil

lemma joinUnits_unitsOf (s : List Char) : Json.joinUnits (unitsOf s) = s := by
  induction s with
  | nil => rfl
  | cons c s ih =>
    rw [unitsOf, List.flatMap_cons, ← unitsOf, codeUnits]
    split_ifs with hc
    · rw [List.singleton_append, Json.joinUnits_cons, ih]
    · have hvalid : c.toNat < 0xD800 ∨ 0xDFFF < c.toNat ∧ c.toNat < 0x110000 := c.valid
      have hpair : 0x10000 + (0xD800 + (c.toNat - 0x10000) / 0x400 - 0xD800) * 0x400 +
          (0xDC00 + (c.toNat - 0x10000) % 0x400 - 0xDC00) = c.toNat := by omega
      rw [List.cons_append, List.singleton_append, Json.joinUnits, if_pos (by omega), hpair,
        Char.ofNat_toNat, ih]

def replaceAll (old new : List Char) (s : List Char) : List Char :=
  match s with
  | [] => []
  | c :: rest =>
    if old.isPrefixOf (c :: rest) then new ++ replaceAll old new (rest.drop (old.length - 1))
    else c :: replaceAll old new rest
termination_by s.length
decreasing_by
  · simp only [List.length_drop, List.length_cons]
    omega
  · simp

lemma replaceAll_char (old : Char) (new s : List Char) :
    replaceAll [old] new s = s.flatMap fun c => if c = old then new else [c] := by
  induction s with
  | nil => simp [replaceAll]
  | cons c s ih =>
    rw [replaceAll, List.flatMap_cons, ← ih]
    by_cases hc : c = old
    · simp [hc]
    · simp [hc, Ne.symm hc]

lemma replaceAll_pair {first second : Char} {s t : List Char} (new : List Char) (hs : second ∉ s)
    (ht : t.head? ≠ some second) :
    replaceAll [first, second] new (s ++ t) = s ++ replaceAll [first, second] new t := by
  induction s with
  | nil => rfl
  | cons c s ih =>
    have hnext : (s ++ t).head? ≠ some second := by
      cases s with
      | nil => exact ht
      | cons d s => simpa using fun h : d = second => hs (by simp [h])
    -- an occurrence that begins here would end in `s` or in the first character of `t`
    have hprefix : ¬ [first, second].isPrefixOf (c :: (s ++ t)) := by
      rw [List.isPrefixOf_iff_prefix]
      rintro ⟨rest, h⟩
      rw [← (List.cons_eq_cons.mp h).2] at hnext
      exact hnext rfl
    rw [List.cons_append, replaceAll, if_neg hprefix, ih (List.not_mem_of_not_mem_cons hs), List.cons_append]

lemma of_mem_escapeAscii {c d : Char} (h : d ∈ Json.escapeAscii c) (hd : Text.hexDigitValue? d = none) :
    d = '\\' ∨ d = 'u' ∨ Json.shortEscape? c = some d ∨ d = c := by
  rcases escapeAscii_cases c with ⟨letter, he, hletter⟩ | he | ⟨-, -, -, he⟩ <;> rw [he] at h
  · rcases List.mem_cons.mp h with rfl | h
    · exact .inl rfl
    · rw [List.mem_singleton.mp h]
      exact .inr (.inr (.inl hletter))
  · obtain ⟨unit, -, h⟩ := List.mem_flatMap.mp h
    rcases List.mem_cons.mp h with rfl | h
    · exact .inl rfl
    rcases List.mem_cons.mp h with rfl | h
    · exact .inr (.inl rfl)
    · exact absurd h (Text.notMem_hex hd 4 unit)
  · exact .inr (.inr (.inr (List.mem_singleton.mp h)))

def halfEscape (c : Char) : List Char := if c = '\'' then ['\\', '\''] else Json.escapeAscii c

lemma replaceAll_escapeAscii (s : List Char) :
    replaceAll ['\''] ['\\', '\''] (s.flatMap Json.escapeAscii) = s.flatMap halfEscape := by
  rw [replaceAll_char, List.flatMap_assoc]
  congr 1
  funext c
  rw [halfEscape]
  split_ifs with hc
  · rw [hc]
    rfl
  · have hquote : '\'' ∉ Json.escapeAscii c := by
      intro h
      rcases of_mem_escapeAscii h (by decide) with h | h | h | h
      · cases h
      · cases h
      · cases (Json.unescape?_of_shortEscape? h).1
      · exact hc h.symm
    refine (List.flatMap_congr fun d hd => if_neg ?_).trans (List.flatMap_singleton' _)
    rintro rfl
    exact hquote hd

lemma notMem_halfEscape {c : Char} (h : c ≠ '"') : '"' ∉ halfEscape c := by
  rw [halfEscape]
  split_ifs with hc
  · decide
  · intro hmem
    rcases of_mem_escapeAscii hmem (by decide) with hd | hd | hd | hd
    · cases hd
    · cases hd
    · exact h (Char.toNat_inj.mp (Option.some.inj (Json.unescape?_of_shortEscape? hd).1.symm))
    · exact h hd.symm

lemma head?_flatMap_halfEscape (s : List Char) : (s.flatMap halfEscape).head? ≠ some '"' := by
  induction s with
  | nil => simp
  | cons c s ih =>
    rw [List.flatMap_cons]
    by_cases hc : c = '"'
    · subst hc
      simp [halfEscape, Json.escapeAscii, Json.shortEscape?]
    · have hmem := notMem_halfEscape hc
      cases hpiece : halfEscape c with
      | nil => exact ih
      | cons d more =>
        rw [hpiece] at hmem
        simpa using fun h : d = '"' => hmem (by simp [h])

lemma replaceAll_halfEscape (s : List Char) :
    replaceAll ['\\', '"'] ['"'] (s.flatMap halfEscape) = s.flatMap escape := by
  induction s with
  | nil => simp [replaceAll]
  | cons c s ih =>
    rw [List.flatMap_cons, List.flatMap_cons, ← ih]
    by_cases hc : c = '"'
    · subst hc
      have hpiece : halfEscape '"' = ['\\', '"'] := rfl
      rw [hpiece, List.cons_append, List.singleton_append, replaceAll, if_pos (by simp)]
      rfl
    · rw [replaceAll_pair _ (notMem_halfEscape hc) (head?_flatMap_halfEscape s)]
      simp [escape, halfEscape, hc]

/--
A quoted text is what two replacements in its JSON form leave: it is in printable ASCII, every
single quote and every line break in it is escaped, and reading it gives the text again, whatever
stands behind it. So no two texts have the same quoted form.
-/
theorem quoted_reads_back (v : String) :
    ∃ inside : List Char,
      Template.Filter.quoted.apply (.string v) = .ok (.string (String.ofList ('\'' :: inside ++ ['\'']))) ∧
      inside = replaceAll ['\\', '"'] ['"']
        (replaceAll ['\''] ['\\', '\''] (v.toList.flatMap Json.escapeAscii)) ∧
      (∀ c ∈ inside, ' ' ≤ c ∧ c ≤ '~') ∧
      Spells inside (unitsOf v.toList) ∧
      (∀ rest, read? ('\'' :: inside ++ '\'' :: rest) = some (unitsOf v.toList, rest)) ∧
      Json.joinUnits (unitsOf v.toList) = v.toList ∧
      ∀ w : String, Template.Filter.quoted.apply (.string w) = Template.Filter.quoted.apply (.string v) ↔
      w = v := by
  have hspells (w : String) : Spells (w.toList.flatMap escape) (unitsOf w.toList) :=
    Spells.flatMap spells_escape _
  have hread (w : String) (rest : List Char) :
      read? ('\'' :: w.toList.flatMap escape ++ '\'' :: rest) = some (unitsOf w.toList, rest) := by
    rw [List.cons_append, read?, (hspells w).readBody_append, readBody_quote]
    simp [prepend]
  refine ⟨v.toList.flatMap escape, rfl, ?_, (hspells v).printable, hspells v, hread v,
    joinUnits_unitsOf _, fun w => ?_⟩
  · rw [replaceAll_escapeAscii, replaceAll_halfEscape]
  · refine ⟨fun h => ?_, fun h => h ▸ rfl⟩
    have hquote : Literal.quote w = Literal.quote v := by simpa [Template.Filter.apply] using h
    have hinside : '\'' :: w.toList.flatMap escape ++ ['\''] = '\'' :: v.toList.flatMap escape ++ ['\''] :=
      String.ofList_inj.mp hquote
    have hunits := hread w []
    rw [hinside, hread v] at hunits
    have hsame : unitsOf v.toList = unitsOf w.toList := congrArg Prod.fst (Option.some.inj hunits)
    rw [← String.toList_inj, ← joinUnits_unitsOf w.toList, ← hsame, joinUnits_unitsOf]

example : quote "\\\"it's\"\\\n😀" = "'\\\\\"it\\'s\"\\\\\\n\\ud83d\\ude00'" := by
  decide +kernel

end ApiScaffold.Literal
