import ApiScaffold.Proofs.Platform.Query
import ApiScaffold.Proofs.Platform.Script

/-!
When an emitted adapter finds the limit in a query that `readCursorParams` and `readOffsetParams`
find. The two take different characters for blanks, write lists in different ways, and round
differently.
-/

namespace ApiScaffold.Script

open Pagination

mutual

def Value.data : Value → Data
  | .null => .null
  | .string s => .string s
  | .int n _ => .int n
  | .list items => .list (itemsData items)

def itemsData : List Value → List Data
  | [] => []
  | item :: rest => item.data :: itemsData rest

end

def Query.data (query : Query) : Pagination.Query := query.map fun entry => (entry.1, entry.2.data)

lemma param_data (name : String) (query : Query) :
    Pagination.param name query.data = (param name query).data := by
  rw [Pagination.param, param]
  induction query with
  | nil => rfl
  | cons entry rest ih =>
    rw [Query.data, List.map_cons, Assoc.get?, Assoc.get?]
    split
    · rfl
    · exact ih

lemma length_toDigits_of_safe {n : Int} (safe : n.natAbs ≤ 9007199254740992) :
    (Nat.toDigits 10 n.natAbs).length ≤ 4300 :=
  (Nat.toDigits_length 10 _ 16 (by decide) (by omega)).trans (by decide)

mutual

theorem hasText_data : ∀ v : Value, v.data.hasText
  | .null | .string _ => rfl
  | .int _ safe => decide_eq_true (length_toDigits_of_safe safe)
  | .list items => itemsHaveText_itemsData items

theorem itemsHaveText_itemsData : ∀ items : List Value, Data.itemsHaveText (itemsData items)
  | [] => rfl
  | item :: rest => Bool.and_eq_true_iff.mpr ⟨hasText_data item, itemsHaveText_itemsData rest⟩

end

def Value.shown : Value → String
  | .null => ""
  | v => v.data.display

lemma textOf?_data (v : Value) : textOf? v.data = some v.shown := by
  have htext : v.data.text? = some v.data.display := if_pos (hasText_data v)
  cases v with
  | null => rfl
  | string | int | list => exact htext

def Exact (n : Int) : Prop := (Binary64.ofInt n).toRat? = some (n : Rat)

def Agree (n m : Int) : Prop := (if m < 0 then (Binary64.ofInt m).toRat? else some (limitOf m : Rat)) =
    some (limitOf n : Rat)

variable {n m k : Int}

lemma limitOf_of_neg (h : n < 0) : limitOf n = n := by
  rw [limitOf]
  split <;> omega

lemma limitOf_eq_iff : limitOf n = 20 ↔ n = 0 ∨ n = 20 := by
  rw [limitOf]
  split <;> omega

lemma agree_self : Agree n n ↔ (n < 0 → Exact n) := by
  rw [Agree, Exact]
  by_cases hneg : n < 0
  · rw [if_pos hneg, limitOf_of_neg hneg]
    exact ⟨fun h _ => h, fun h => h hneg⟩
  · rw [if_neg hneg]
    exact ⟨fun _ h => absurd h hneg, fun _ => rfl⟩

lemma agree_zero_right : Agree n 0 ↔ n = 0 ∨ n = 20 := by
  rw [← limitOf_eq_iff, Agree, if_neg (lt_irrefl 0), Option.some_inj, Int.cast_inj]
  exact eq_comm

lemma agree_zero_left : Agree 0 m ↔ m = 0 ∨ m = 20 := by
  rw [Agree]
  by_cases hneg : m < 0
  · rw [if_pos hneg]
    -- A negative number stays negative when it is rounded, and so is not the default.
    rcases Binary64.ofInt_of_neg hneg with hinf | ⟨a, ha, hx⟩
    · rw [hinf]
      exact ⟨nofun, by omega⟩
    · rw [hx, Option.some_inj]
      refine ⟨fun h => ?_, by omega⟩
      have htwenty : a = 20 := h
      linarith
  · rw [if_neg hneg, Option.some_inj, Int.cast_inj, ← limitOf_eq_iff]
    rfl

def Value.Overlong : Value → Prop
  | .string s => Pagination.Overlong Text.isBlank s.toList
  | _ => False

/--
When the limits agree. All blanks of a text are blanks for both readers, and a negative number
behind them is not rounded; or both readers miss one; or nothing is read, or the default.
-/
def Value.Mirrored : Value → Prop
  | .null | .int .. => True
  | .list items =>
    Number isBlank (Value.list items).text.toList 0 ∨ Number isBlank (Value.list items).text.toList 20
  | .string s => ∃ blanks rest k, s.toList = blanks ++ rest ∧ (∀ c ∈ blanks, Text.isBlank c || isBlank c) ∧
      (∀ c ∈ rest.head?, (Text.isBlank c || isBlank c) = false) ∧ Number (fun _ => false) rest k ∧
      (k = 0 ∨ k = 20 ∨ ((∀ c ∈ blanks, Text.isBlank c && isBlank c) ∧ (k < 0 → Exact k)) ∨
        ¬(∀ c ∈ blanks, Text.isBlank c) ∧ ¬∀ c ∈ blanks, isBlank c)

lemma toList_shown_list (items : List Value) : ∃ rest, (Value.list items).shown.toList = '[' :: rest := by
  have hshown : (Value.list items).shown =
      "[" ++ ", ".intercalate (Data.inspectItems (itemsData items)) ++ "]" := rfl
  rw [hshown, String.toList_append, String.toList_append]
  exact ⟨_, rfl⟩

lemma overlong_shown (v : Value) : Pagination.Overlong Text.isBlank v.shown.toList ↔ v.Overlong := by
  cases v with
  | string s => rfl
  | null =>
    refine iff_of_false ?_ id
    rw [overlong_iff Pagination.apart_isBlank]
    decide
  | int n safe =>
    refine iff_of_false ?_ id
    exact (number_repr (length_toDigits_of_safe safe) (List.forall_mem_nil _) (by simp)
      (List.append_nil _).symm).2
  | list items =>
    refine iff_of_false ?_ id
    obtain ⟨rest, hrest⟩ := toList_shown_list items
    rw [hrest, overlong_iff Pagination.apart_isBlank, digitsOf_cons_of_stop (by decide) (by decide)]
    exact Nat.not_lt_zero _

lemma startsInteger_of_blank {c : Char} (h : Text.isBlank c || isBlank c) : startsInteger c = false := by
  by_contra hstart
  rw [Bool.not_eq_false] at hstart
  rw [Pagination.apart_isBlank c hstart, apart_isBlank c hstart] at h
  exact Bool.false_ne_true h

lemma agree_string {s : String} {blanks rest : List Char} (hs : s.toList = blanks ++ rest)
    (hblanks : ∀ c ∈ blanks, Text.isBlank c || isBlank c)
    (hrest : ∀ c ∈ rest.head?, (Text.isBlank c || isBlank c) = false)
    (hk : Number (fun _ => false) rest k) (hn : Number Text.isBlank s.toList n)
    (hm : Number isBlank s.toList m) :
    Agree n m ↔ k = 0 ∨ k = 20 ∨ ((∀ c ∈ blanks, Text.isBlank c && isBlank c) ∧ (k < 0 → Exact k)) ∨
      ¬(∀ c ∈ blanks, Text.isBlank c) ∧ ¬∀ c ∈ blanks, isBlank c := by
  have hstop : ∀ c ∈ blanks, startsInteger c = false := fun c hc => startsInteger_of_blank (hblanks c hc)
  rw [hs] at hn hm
  rw [number_append_iff Pagination.apart_isBlank hstop
    (fun c hc => (Bool.or_eq_false_iff.mp (hrest c hc)).1) hk] at hn
  rw [number_append_iff apart_isBlank hstop (fun c hc => (Bool.or_eq_false_iff.mp (hrest c hc)).2) hk] at hm
  subst hn hm
  -- A reader finds the number if it knows all of the blanks, and nothing otherwise.
  simp only [Bool.and_eq_true, forall₂_and, ← List.all_eq_true]
  by_cases htext : blanks.all Text.isBlank
  · by_cases hscript : blanks.all isBlank
    · have hzero : k = 0 → ¬k < 0 := by omega
      have hdefault : k = 20 → ¬k < 0 := by omega
      rw [if_pos htext, if_pos hscript, agree_self]
      tauto
    · rw [if_pos htext, if_neg hscript, agree_zero_right]
      tauto
  · by_cases hscript : blanks.all isBlank
    · rw [if_neg htext, if_pos hscript, agree_zero_left]
      tauto
    · rw [if_neg htext, if_neg hscript, agree_zero_left]
      tauto

lemma agree_list {items : List Value} (hn : Number Text.isBlank (Value.list items).shown.toList n)
    (hm : Number isBlank (Value.list items).text.toList m) : Agree n m ↔ (Value.list items).Mirrored := by
  -- The bracket in front hides all numbers of the list.
  obtain ⟨rest, hrest⟩ := toList_shown_list items
  rw [hrest, number_cons_of_stop Pagination.apart_isBlank (by decide) (by decide)] at hn
  subst hn
  rw [agree_zero_left]
  have hunique : ∀ k, Number isBlank (Value.list items).text.toList k → m = k :=
    fun k hk => (existsUnique_number apart_isBlank _).unique hm hk
  constructor
  · rintro (rfl | rfl)
    · exact .inl hm
    · exact .inr hm
  · rintro (h | h)
    · exact .inl (hunique 0 h)
    · exact .inr (hunique 20 h)

lemma agree_iff {v : Value} (hn : Number Text.isBlank v.shown.toList n)
    (hm : Number isBlank v.text.toList m) :
    Agree n m ↔ v.Mirrored := by
  cases v with
  | null =>
    obtain rfl := (number_nil_iff Pagination.apart_isBlank).mp hn
    obtain rfl := (number_nil_iff apart_isBlank).mp hm
    exact iff_true_intro rfl
  | int i safe =>
    obtain rfl := (number_repr_iff Pagination.apart_isBlank).mp hn
    obtain rfl := (number_repr_iff apart_isBlank).mp hm
    exact iff_true_intro (agree_self.mpr fun _ => Binary64.toRat?_ofInt_of_le safe)
  | list items => exact agree_list hn hm
  | string s =>
    -- cut behind the blanks of either reader, so that both may stop within them
    constructor
    · intro h
      obtain ⟨blanks, rest, hs, hblanks, hrest⟩ :=
        Text.exists_append_of_stop (fun c => Text.isBlank c || isBlank c) s.toList
      obtain ⟨k, hk, -⟩ := existsUnique_number apart_never rest
      exact ⟨blanks, rest, k, hs, hblanks, hrest, hk, (agree_string hs hblanks hrest hk hn hm).mp h⟩
    · rintro ⟨blanks, rest, k, hs, hblanks, hrest, hk, h⟩
      exact (agree_string hs hblanks hrest hk hn hm).mpr h

lemma isBlank_ne_iff (c : Char) : Text.isBlank c ≠ isBlank c ↔ c.toNat ∈ [28, 29, 30, 31, 133, 65279] := by
  rw [ne_eq, Bool.eq_iff_iff]
  simp only [Text.isBlank, isBlank, Text.inRanges, Text.blankRanges, blankRanges, List.any_cons,
    List.any_nil, Bool.or_false,
    Bool.or_eq_true, Bool.and_eq_true, decide_eq_true_eq, List.mem_cons, List.not_mem_nil, or_false]
  omega

lemma limit_agrees_iff {query : Query} {limit : Int} {x : Binary64}
    (hn : Number Text.isBlank (param "limit" query).shown.toList n) (hlimit : limit = limitOf n)
    (hx : Script.limit query = some x) : x.toRat? = some (limit : Rat) ↔ (param "limit" query).Mirrored := by
  obtain ⟨m, hm, -⟩ := existsUnique_number apart_isBlank (param "limit" query).text.toList
  obtain rfl := Option.some.inj ((limit_eq query).symm.trans hx)
  rw [toRat?_bounded_of_number hm, hlimit, ← agree_iff hn hm, Agree]

/--
The functions of an emitted pagination module are known by their expressions, and find a limit in
every query. The two readers refuse a query only for too many digits, and otherwise find the same
limit exactly if its value is mirrored.
-/
theorem limits_agree_iff (plan : Plan) (adapterId : String) (profile : Profile) (query : Query) :
    (∃ source, Template.render (AdapterPackage.paginationTemplate profile.pagination)
        (AdapterPackage.context plan adapterId profile) = .ok source ∧
      Offline.block (opening profile.pagination).toList "\x7d".toList source = body profile.pagination) ∧
    (∀ c, Text.isBlank c ≠ isBlank c ↔ c.toNat ∈ [28, 29, 30, 31, 133, 65279]) ∧
    (∀ k : Int, k.natAbs ≤ 9007199254740992 → Exact k) ∧
    ((∃ e, readCursorParams query.data = .error e) ↔ (param "limit" query).Overlong) ∧
    ((∃ e, readOffsetParams query.data = .error e) ↔
      (param "offset" query).Overlong ∨ (param "limit" query).Overlong) ∧
    ∃ x, limit query = some x ∧
      ((∃ p, readCursorParams query.data = .ok p ∧ x.toRat? = some (p.limit : Rat)) ↔
        ¬(param "limit" query).Overlong ∧ (param "limit" query).Mirrored) ∧
      ((∃ p, readOffsetParams query.data = .ok p ∧ x.toRat? = some (p.limit : Rat)) ↔
        ¬((param "offset" query).Overlong ∨ (param "limit" query).Overlong) ∧
        (param "limit" query).Mirrored) := by
  have hlimit : textOf? (Pagination.param "limit" query.data) = some (param "limit" query).shown := by
    rw [param_data, textOf?_data]
  have hoffset : textOf? (Pagination.param "offset" query.data) = some (param "offset" query).shown := by
    rw [param_data, textOf?_data]
  obtain ⟨hcursor, hcursorRead⟩ := readCursorParams_of_text hlimit
  obtain ⟨hboth, hbothRead⟩ := readOffsetParams_of_text hlimit hoffset
  rw [overlong_shown] at hcursor
  rw [overlong_shown, overlong_shown] at hboth
  refine ⟨block_render plan adapterId profile, isBlank_ne_iff,
    fun k hk => Binary64.toRat?_ofInt_of_le hk, hcursor, hboth, _, limit_eq query,
    Chain.exists_ok_and_iff hcursor fun p hp => ?_, Chain.exists_ok_and_iff hboth fun p hp => ?_⟩
  · obtain ⟨n, hn, hp⟩ := hcursorRead p hp
    exact limit_agrees_iff hn hp (limit_eq query)
  · obtain ⟨-, n, hn, hp⟩ := hbothRead p hp
    exact limit_agrees_iff hn hp (limit_eq query)

theorem limits_agree_negative : ∃ x p, limit [("limit", .string "\u00a0-7")] = some x ∧
    readOffsetParams (Query.data [("limit", .string "\u00a0-7")]) = .ok p ∧
    x.toRat? = some (p.limit : Rat) := by
  obtain ⟨-, -, hexact, -, hrefused, x, hx, -, hoffset⟩ :=
    limits_agree_iff (Plan.ofConfig {}) "mobile" Profile.mobile [("limit", .string "\u00a0-7")]
  have hshort : ¬∃ e, readOffsetParams (Query.data [("limit", .string "\u00a0-7")]) = .error e := by
    have hparams : readOffsetParams (Query.data [("limit", .string "\u00a0-7")]) = .ok ⟨0, -7⟩ := by cbv
    rw [hparams]
    rintro ⟨e, he⟩
    cases he
  have hmirrored : (Value.string "\u00a0-7").Mirrored := by
    have hrest : ∀ c ∈ ['-', '7'].head?, (Text.isBlank c || isBlank c) = false := by
      rintro c ⟨⟩
      rfl
    have hread : Number (fun _ => false) ['-', '7'] (-7) := (number_iff apart_never).mpr (by decide)
    exact ⟨['\u00a0'], ['-', '7'], -7, String.toList_ofList, List.forall_mem_singleton.mpr rfl, hrest, hread,
      .inr (.inr (.inl ⟨List.forall_mem_singleton.mpr rfl, fun _ => hexact (-7) (by decide)⟩))⟩
  obtain ⟨p, hp, hlimit⟩ := hoffset.mpr ⟨mt hrefused.mpr hshort, hmirrored⟩
  exact ⟨x, p, hx, hp, hlimit⟩

/-- A parameter in a list of one, and a text behind a blank that only one reader knows. -/
theorem limit_of_repeated_parameter :
    readOffsetParams (Query.data [("limit", .list [.string "5"])]) = .ok ⟨0, 20⟩ ∧
    (limit [("limit", .list [.string "5"])]).bind Binary64.toRat? = some 5 ∧
    readCursorParams (Query.data [("limit", .string "\x1c5")]) = .ok ⟨none, 5⟩ ∧
    (limit [("limit", .string "\x1c5")]).bind Binary64.toRat? = some 20 := by
  exact ⟨by cbv, by decide +kernel, by cbv, by decide +kernel⟩

end ApiScaffold.Script
