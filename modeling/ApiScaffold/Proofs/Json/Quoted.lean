import ApiScaffold.Json.Token
import ApiScaffold.Proofs.Text.Hex
import Mathlib.Tactic.SplitIfs

namespace ApiScaffold.Json

lemma unescape?_of_shortEscape? {c letter : Char} (h : shortEscape? c = some letter) :
    unescape? letter = some c.toNat ∧ letter ≠ 'u' := by
  have hcode {n : Nat} (hn : c.toNat = n) (hl : unescape? letter = some n) (hu : letter ≠ 'u') :
      unescape? letter = some c.toNat ∧ letter ≠ 'u' := ⟨hn ▸ hl, hu⟩
  unfold shortEscape? at h
  split_ifs at h with h1 h2 h3 h4 h5 h6 h7
  · cases h
    exact hcode (congrArg Char.toNat h1) rfl (by decide)
  · cases h
    exact hcode (congrArg Char.toNat h2) rfl (by decide)
  · cases h
    exact hcode (congrArg Char.toNat h3) rfl (by decide)
  · cases h
    exact hcode (congrArg Char.toNat h4) rfl (by decide)
  · cases h
    exact hcode (congrArg Char.toNat h5) rfl (by decide)
  · cases h
    exact hcode h6 rfl (by decide)
  · cases h
    exact hcode h7 rfl (by decide)

lemma escape_cases (c : Char) :
    (∃ letter, escape c = ['\\', letter] ∧ unescape? letter = some c.toNat ∧ letter ≠ 'u') ∨
    (c.toNat < 0x20 ∧ escape c = unicodeEscape c.toNat) ∨
    (0x20 ≤ c.toNat ∧ c ≠ '"' ∧ c ≠ '\\' ∧ escape c = [c]) := by
  cases hs : shortEscape? c with
  | some letter => exact .inl ⟨letter, by simp [escape, hs], unescape?_of_shortEscape? hs⟩
  | none =>
    by_cases hc : c.toNat < 0x20
    · exact .inr (.inl ⟨hc, by simp [escape, hs, hc]⟩)
    · refine .inr (.inr ⟨Nat.le_of_not_lt hc, ?_, ?_, by simp [escape, hs, hc]⟩)
      · rintro rfl
        cases hs
      · rintro rfl
        cases hs

lemma readString_escape (start offset : Nat) (c next : Char) (rest : List Char) :
    readString start offset (escape c ++ next :: rest) =
      (readString start (offset + (escape c).length) (next :: rest)).map fun (units, rest) =>
      (c.toNat :: units, rest) := by
  rcases escape_cases c with ⟨letter, he, hletter, hu⟩ | ⟨hc, he⟩ | ⟨hc, hquote, hslash, he⟩
  · rw [he]
    simp [readString, hu, hletter]
  · obtain ⟨a, b, d, e, hhex⟩ : ∃ a b d e, Text.hex 4 c.toNat = [a, b, d, e] :=
      ⟨_, _, _, _, rfl⟩
    have hvalue := Text.hexValue?_hex 4 c.toNat
    rw [Nat.mod_eq_of_lt (by omega), hhex] at hvalue
    rw [he, unicodeEscape, hhex]
    simp [readString, hvalue]
  · rw [he]
    simp [readString, hslash, Nat.not_lt.mpr hc]

lemma readString_flatMap (start offset : Nat) (s rest : List Char) :
    readString start offset (s.flatMap escape ++ '"' :: rest) = .ok (s.map Char.toNat, rest) := by
  induction s generalizing offset with
  | nil => simp [readString]
  | cons c s ih =>
    obtain ⟨next, more, hmore⟩ : ∃ next more, s.flatMap escape ++ '"' :: rest = next :: more := by
      cases h : s.flatMap escape with
      | nil => exact ⟨_, _, rfl⟩
      | cons next more => exact ⟨_, _, rfl⟩
    rw [List.flatMap_cons, List.append_assoc, hmore, readString_escape, ← hmore, ih]
    rfl

lemma not_surrogate (c : Char) : ¬ (0xD800 ≤ c.toNat ∧ c.toNat < 0xE000) := by
  have hvalid : c.toNat < 0xD800 ∨ 0xDFFF < c.toNat ∧ c.toNat < 0x110000 := c.valid
  omega

lemma joinUnits_cons (c : Char) (units : List Nat) : joinUnits (c.toNat :: units) = c :: joinUnits units := by
  have hc := not_surrogate c
  cases units with
  | nil => simp [joinUnits, hc]
  | cons unit units =>
    have hpair : ¬ (0xD800 ≤ c.toNat ∧ c.toNat < 0xDC00 ∧ 0xDC00 ≤ unit ∧ unit < 0xE000) := by omega
    rw [joinUnits, if_neg hpair, if_neg hc, Char.ofNat_toNat]

lemma joinUnits_toNat (s : List Char) : joinUnits (s.map Char.toNat) = s := by
  induction s with
  | nil => rfl
  | cons c s ih => rw [List.map_cons, joinUnits_cons, ih]

lemma notMem_escape (c : Char) : '\r' ∉ escape c := by
  rcases escape_cases c with ⟨letter, he, hletter, -⟩ | ⟨hc, he⟩ | ⟨hc, -, -, he⟩
  · rw [he]
    have hne : letter ≠ '\r' := by
      rintro rfl
      cases hletter
    simp [Ne.symm hne]
  · rw [he]
    exact (by decide : ∀ n < 0x20, '\r' ∉ unicodeEscape n) _ hc
  · rw [he, List.mem_singleton]
    rintro rfl
    exact absurd hc (by decide)

lemma notMem_quote (s : String) : '\r' ∉ quote s := by
  simp only [quote, List.mem_append, List.mem_cons, List.mem_flatMap, not_or, List.not_mem_nil,
    not_false_eq_true, and_true]
  exact ⟨⟨by decide, fun ⟨c, _, hc⟩ => notMem_escape c hc⟩, by decide⟩

lemma notMem_unicodeEscapes (c : Char) : '\n' ∉ unicodeEscapes c := by
  have hunit (unit : Nat) : '\n' ∉ unicodeEscape unit := by
    simp [unicodeEscape, Text.notMem_hex (c := '\n') (by decide)]
  unfold unicodeEscapes
  split
  · exact hunit _
  · simp [hunit]

lemma notMem_escapeAscii (c : Char) : '\n' ∉ escapeAscii c := by
  unfold escapeAscii
  split
  · rename_i letter hletter
    have hne : letter ≠ '\n' := by
      rintro rfl
      cases (unescape?_of_shortEscape? hletter).1
    simp [Ne.symm hne]
  · split
    · exact notMem_unicodeEscapes c
    · rename_i hc
      rw [List.mem_singleton]
      rintro rfl
      exact hc (.inl (by decide))

end ApiScaffold.Json
