import ApiScaffold.Proofs.Except
import ApiScaffold.Proofs.Platform.LeadingInteger

namespace ApiScaffold.Pagination

open Chain Text

variable {value : Data} {query : Query} {s : String} {n default : Int}

lemma leadingInt?_eq (s : List Char) : leadingInt? s =
    if digitsOf (s.dropWhile isBlank) = [] then none
    else some (decide (signOf (s.dropWhile isBlank) = ['-']), digitsOf (s.dropWhile isBlank)) := by
  rw [leadingInt?]
  generalize s.dropWhile isBlank = t
  cases t with
  | nil => rfl
  | cons c rest =>
    by_cases hminus : c = '-'
    · subst hminus
      simp [digitsOf, signOf]
    · by_cases hplus : c = '+'
      · subst hplus
        simp [digitsOf, signOf]
      · simp [digitsOf, signOf, hminus, hplus]

lemma readInt_eq (h : textOf? value = some s) (default : Int) :
    let t := s.toList.dropWhile isBlank
    readInt value default = if 4300 < (digitsOf t).length then .error ⟨some (digitsOf t).length⟩
      else .ok (if signed (signOf t) (digitsOf t) = 0 then default else signed (signOf t) (digitsOf t)) := by
  intro t
  rw [readInt, h]
  dsimp only
  rw [leadingInt?_eq]
  by_cases hnil : digitsOf t = []
  · have hzero : signed (signOf t) [] = 0 := by simp [signed, digitsValue]
    rw [if_pos hnil, hnil, hzero]
    rfl
  · rw [if_neg hnil]
    by_cases hsign : signOf t = ['-']
    · simp [signed, hsign, maxDigits, t]
    · simp [signed, hsign, maxDigits, t]

lemma readInt_cases (h : textOf? value = some s) (default : Int) :
    (Overlong isBlank s.toList ∧ ∃ e, readInt value default = .error e) ∨
      ¬Overlong isBlank s.toList ∧ ∃ n, Number isBlank s.toList n ∧
        readInt value default = .ok (if n = 0 then default else n) := by
  have hread := readInt_eq h default
  by_cases hlong : Overlong isBlank s.toList
  · rw [overlong_iff apart_isBlank] at hlong
    exact .inl ⟨(overlong_iff apart_isBlank).mpr hlong, _, hread.trans (if_pos hlong)⟩
  · refine .inr ⟨hlong, _, (number_iff apart_isBlank).mpr rfl, ?_⟩
    rw [overlong_iff apart_isBlank] at hlong
    exact hread.trans (if_neg hlong)

lemma readInt_of_noText (h : textOf? value = none) (default : Int) :
    readInt value default = .error ⟨none⟩ := by
  rw [readInt, h]

def limitOf (n : Int) : Int := if n = 0 then 20 else min n 100

lemma limitOf_ne_zero (n : Int) : limitOf n ≠ 0 := by
  rw [limitOf]
  split <;> omega

lemma limitOf_le (n : Int) : limitOf n ≤ 100 := by
  rw [limitOf]
  split <;> omega

lemma min_default (n : Int) : min (if n = 0 then defaultLimit else n) maxLimit = limitOf n := by
  rw [limitOf]
  split <;> rfl

lemma readLimit_eq (query : Query) :
    readLimit query = (min · maxLimit) <$> readInt (param "limit" query) defaultLimit := rfl

lemma readLimit_cases (h : textOf? (param "limit" query) = some s) :
    (Overlong isBlank s.toList ∧ ∃ e, readLimit query = .error e) ∨
      ¬Overlong isBlank s.toList ∧ ∃ n, Number isBlank s.toList n ∧ readLimit query = .ok (limitOf n) := by
  rw [readLimit_eq]
  rcases readInt_cases h defaultLimit with ⟨hlong, e, he⟩ | ⟨hshort, n, hn, hok⟩
  · exact .inl ⟨hlong, e, by rw [he]; rfl⟩
  · exact .inr ⟨hshort, n, hn, by rw [hok, map_ok, min_default]⟩

lemma readOffset_cases (h : textOf? value = some s) :
    (Overlong isBlank s.toList ∧ ∃ e, readInt value 0 = .error e) ∨
      ¬Overlong isBlank s.toList ∧ ∃ n, Number isBlank s.toList n ∧ readInt value 0 = .ok n := by
  rcases readInt_cases h 0 with hlong | ⟨hshort, n, hn, hok⟩
  · exact .inl hlong
  · refine .inr ⟨hshort, n, hn, hok.trans (congrArg _ ?_)⟩
    split
    · exact Eq.symm ‹_›
    · rfl

def cursor? (query : Query) : Option String :=
  match param "cursor" query with
  | .string s => some s
  | _ => none

lemma readCursorParams_eq (query : Query) :
    readCursorParams query = (CursorParams.mk (cursor? query)) <$> readLimit query := by
  rw [map_eq_bind]
  rfl

lemma readOffsetParams_eq (query : Query) : readOffsetParams query =
    readInt (param "offset" query) 0 >>= fun offset => OffsetParams.mk offset <$> readLimit query := by
  simp only [map_eq_bind]
  rfl

lemma readCursorParams_of_text (h : textOf? (param "limit" query) = some s) :
    ((∃ e, readCursorParams query = .error e) ↔ Overlong isBlank s.toList) ∧
    ∀ p, readCursorParams query = .ok p → ∃ n, Number isBlank s.toList n ∧ p.limit = limitOf n := by
  rw [readCursorParams_eq]
  refine exists_error_iff_and_forall_ok ?_
  rcases readLimit_cases h with ⟨hlong, e, he⟩ | ⟨hshort, n, hn, hok⟩
  · exact .inl ⟨hlong, e, by rw [he]; rfl⟩
  · exact .inr ⟨hshort, _, ⟨n, hn, rfl⟩, by rw [hok, map_ok]⟩

lemma readOffsetParams_of_text {offset : String} (h : textOf? (param "limit" query) = some s)
    (hoffset : textOf? (param "offset" query) = some offset) :
    ((∃ e, readOffsetParams query = .error e) ↔ Overlong isBlank offset.toList ∨ Overlong isBlank s.toList) ∧
    ∀ p, readOffsetParams query = .ok p →
      Number isBlank offset.toList p.offset ∧ ∃ n, Number isBlank s.toList n ∧ p.limit = limitOf n := by
  rw [readOffsetParams_eq]
  refine exists_error_iff_and_forall_ok ?_
  rcases readOffset_cases hoffset with ⟨hlong, e, he⟩ | ⟨hshort, m, hm, hok⟩
  · exact .inl ⟨.inl hlong, e, by rw [he, error_bind]⟩
  · rw [hok, ok_bind, or_iff_right hshort]
    rcases readLimit_cases h with ⟨hlong, e, he⟩ | ⟨hshort, n, hn, hok⟩
    · exact .inl ⟨hlong, e, by rw [he]; rfl⟩
    · exact .inr ⟨hshort, _, ⟨hm, n, hn, rfl⟩, by rw [hok, map_ok]⟩

lemma refused_of_noText :
    (textOf? (param "limit" query) = none →
      (∃ e, readCursorParams query = .error e) ∧ ∃ e, readOffsetParams query = .error e) ∧
    (textOf? (param "offset" query) = none → ∃ e, readOffsetParams query = .error e) := by
  rw [readCursorParams_eq, readOffsetParams_eq, readLimit_eq]
  constructor
  · intro h
    rw [readInt_of_noText h]
    refine ⟨⟨_, rfl⟩, ?_⟩
    cases readInt (param "offset" query) 0 with
    | ok offset => exact ⟨_, rfl⟩
    | error e => exact ⟨e, rfl⟩
  · intro h
    rw [readInt_of_noText h]
    exact ⟨_, rfl⟩

lemma limit_of_readLimit {limit : Int} (h : readLimit query = .ok limit) : limit ≠ 0 ∧ limit ≤ 100 := by
  cases ht : textOf? (param "limit" query) with
  | none =>
    rw [readLimit_eq, readInt_of_noText ht] at h
    cases h
  | some s =>
    rcases readLimit_cases ht with ⟨-, e, he⟩ | ⟨-, n, -, hok⟩
    · rw [he] at h
      cases h
    · rw [hok] at h
      cases h
      exact ⟨limitOf_ne_zero n, limitOf_le n⟩

lemma readLimit_of_number (h : textOf? (param "limit" query) = some s) (hshort : ¬Overlong isBlank s.toList)
    (hn : Number isBlank s.toList n) : readLimit query = .ok (limitOf n) := by
  rcases readLimit_cases h with ⟨hlong, -⟩ | ⟨-, m, hm, hok⟩
  · exact absurd hlong hshort
  · rw [hok, (existsUnique_number apart_isBlank _).unique hm hn]

lemma readOffset_of_number (h : textOf? value = some s) (hshort : ¬Overlong isBlank s.toList)
    (hn : Number isBlank s.toList n) : readInt value 0 = .ok n := by
  rcases readOffset_cases h with ⟨hlong, -⟩ | ⟨-, m, hm, hok⟩
  · exact absurd hlong hshort
  · rw [hok, (existsUnique_number apart_isBlank _).unique hm hn]

lemma number_repr {blanks rest : List Char} (hdigits : (Nat.toDigits 10 n.natAbs).length ≤ 4300)
    (hblanks : ∀ c ∈ blanks, isBlank c) (hrest : ∀ c ∈ rest.head?, c.isDigit = false)
    (hs : s.toList = blanks ++ (n.repr.toList ++ rest)) :
    Number isBlank s.toList n ∧ ¬Overlong isBlank s.toList := by
  have hopens := opens_repr hblanks hrest n
  rw [hs]
  refine ⟨.inl ⟨_, _, hopens, (signed_repr n).symm⟩, ?_⟩
  rw [overlong_iff apart_isBlank, ← ((opens_iff apart_isBlank).mp hopens).2.1]
  exact Nat.not_lt.mpr hdigits

/--
Limit and offset are the integers that start the texts of their values, none standing for zero, zero
for the default limit and 100 for all greater limits. A query is refused exactly if more than 4300
digits were to be read, or to be written as the text of a value. A written integer is read back,
whatever blanks stand in front and whatever follows.
-/
theorem params_of_query :
    (∀ s : String, ∃! n, Number isBlank s.toList n) ∧
    (∀ (query : Query) (limit : String), textOf? (param "limit" query) = some limit →
      ((∃ e, readCursorParams query = .error e) ↔ Overlong isBlank limit.toList) ∧
      (∀ p, readCursorParams query = .ok p →
        ∃ n, Number isBlank limit.toList n ∧ p.limit = if n = 0 then 20 else min n 100) ∧
      ∀ offset : String, textOf? (param "offset" query) = some offset →
        ((∃ e, readOffsetParams query = .error e) ↔
          Overlong isBlank offset.toList ∨ Overlong isBlank limit.toList) ∧
        ∀ p, readOffsetParams query = .ok p → Number isBlank offset.toList p.offset ∧
          ∃ n, Number isBlank limit.toList n ∧ p.limit = if n = 0 then 20 else min n 100) ∧
    (∀ query : Query,
      (textOf? (param "limit" query) = none →
        (∃ e, readCursorParams query = .error e) ∧ ∃ e, readOffsetParams query = .error e) ∧
      (textOf? (param "offset" query) = none → ∃ e, readOffsetParams query = .error e)) ∧
    (∀ (n : Int) (blanks rest : List Char), (Nat.toDigits 10 n.natAbs).length ≤ 4300 →
      (∀ c ∈ blanks, isBlank c) →
      (∀ c ∈ rest.head?, c.isDigit = false) →
      let value := Data.string (String.ofList (blanks ++ (n.repr.toList ++ rest)))
      readOffsetParams [("offset", value), ("limit", value)] = .ok ⟨n, if n = 0 then 20 else min n 100⟩ ∧
        readCursorParams [("limit", value)] = .ok ⟨none, if n = 0 then 20 else min n 100⟩) ∧
    ∀ query : Query, (∀ p, readCursorParams query = .ok p → p.limit ≠ 0 ∧ p.limit ≤ 100) ∧
      ∀ p, readOffsetParams query = .ok p → p.limit ≠ 0 ∧ p.limit ≤ 100 := by
  refine ⟨fun s => existsUnique_number apart_isBlank s.toList, fun query limit h => ?_,
    fun query => refused_of_noText, fun n blanks rest hdigits hblanks hrest => ?_, fun query => ?_⟩
  · obtain ⟨hrefused, hread⟩ := readCursorParams_of_text h
    exact ⟨hrefused, hread, fun offset hoffset => readOffsetParams_of_text h hoffset⟩
  · intro value
    have hs := String.toList_ofList (l := blanks ++ (n.repr.toList ++ rest))
    obtain ⟨hn, hshort⟩ := number_repr hdigits hblanks hrest hs
    have hlimit : readLimit [("limit", value)] = .ok (limitOf n) := readLimit_of_number rfl hshort hn
    have hboth : readLimit [("offset", value), ("limit", value)] = .ok (limitOf n) :=
      readLimit_of_number rfl hshort hn
    have hoffset : readInt (param "offset" [("offset", value), ("limit", value)]) 0 = .ok n :=
      readOffset_of_number rfl hshort hn
    rw [readOffsetParams_eq, readCursorParams_eq, hoffset, ok_bind, hboth, hlimit]
    exact ⟨rfl, rfl⟩
  · rw [readCursorParams_eq, readOffsetParams_eq]
    constructor
    · intro p hp
      obtain ⟨limit, hlimit, rfl⟩ := map_eq_ok.mp hp
      exact limit_of_readLimit hlimit
    · intro p hp
      obtain ⟨offset, -, hp⟩ := bind_eq_ok.mp hp
      obtain ⟨limit, hlimit, rfl⟩ := map_eq_ok.mp hp
      exact limit_of_readLimit hlimit

lemma textOf?_overlong : textOf? (.list [.int (Nat.pow 10 4300)]) = none := by
  have h : (Data.list [.int (Nat.pow 10 4300)]).hasText = false := by decide +kernel
  rw [textOf?, Data.text?, h]
  · rfl
  · nofun

theorem params_of_blank_query :
    let value := Data.string "\u2003\x1c-42٣"
    ((∃ e, readCursorParams [("limit", value)] = .error e) ↔ Overlong isBlank "\u2003\x1c-42٣".toList) ∧
      readOffsetParams [("offset", value), ("limit", value)] = .ok ⟨-42, -42⟩ ∧
      ∃ e, readOffsetParams [("limit", .list [.int (Nat.pow 10 4300)])] = .error e := by
  intro value
  obtain ⟨-, hread, hnoText, hwritten, -⟩ := params_of_query
  have hblanks : ∀ c ∈ ['\u2003', '\x1c'], isBlank c :=
    List.forall_mem_cons.mpr ⟨rfl, List.forall_mem_singleton.mpr rfl⟩
  have hrest : ∀ c ∈ ['٣'].head?, c.isDigit = false := by
    rintro c ⟨⟩
    rfl
  have hrepr := hwritten (-42) ['\u2003', '\x1c'] ['٣'] (by decide) hblanks hrest
  exact ⟨(hread [("limit", value)] _ rfl).1, hrepr.1, ((hnoText [("limit", _)]).1 textOf?_overlong).2⟩

lemma toList_display_list (items : List Data) :
    ∃ rest, (Data.display (.list items)).toList = '[' :: rest := by
  rw [Data.display, Data.inspect, String.toList_append, String.toList_append]
  · exact ⟨_, rfl⟩
  · nofun

/-- No integer starts the text of a list, and yet a list is refused whose text cannot be written. -/
theorem list_refused_unread :
    let value := Data.list [.int (Nat.pow 10 4300)]
    Number isBlank value.display.toList 0 ∧ ¬Overlong isBlank value.display.toList ∧
      (∃ e, readCursorParams [("limit", value)] = .error e) ∧
      ∃ e, readOffsetParams [("limit", value)] = .error e := by
  intro value
  obtain ⟨rest, hrest⟩ := toList_display_list [.int (Nat.pow 10 4300)]
  rw [hrest, number_cons_of_stop apart_isBlank (by decide) (by decide), overlong_iff apart_isBlank,
    digitsOf_cons_of_stop (by decide) (by decide)]
  exact ⟨rfl, Nat.not_lt_zero 4300, refused_of_noText.1 textOf?_overlong⟩

end ApiScaffold.Pagination
