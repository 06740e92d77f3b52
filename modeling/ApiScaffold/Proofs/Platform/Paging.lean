import ApiScaffold.Platform.Pagination
import Mathlib.Algebra.Order.Floor.Div
import Mathlib.Tactic.Lemma

namespace ApiScaffold.Pagination

variable {α : Type} {xs : List α} {limit offset : Nat}

def pageAt (xs : List α) (limit offset : Nat) : OffsetPage α :=
  ⟨(xs.drop offset).take limit, xs.length, offset, limit⟩

inductive Pages (xs : List α) (limit : Nat) : Nat → List (OffsetPage α) → Prop where
  | last {offset : Nat} (h : (pageAt xs limit offset).hasMore = false) : Pages xs limit offset
    [pageAt xs limit offset]
  | more {offset : Nat} {rest : List (OffsetPage α)} (h : (pageAt xs limit offset).hasMore = true)
      (hrest : Pages xs limit (offset + (pageAt xs limit offset).data.length) rest) :
      Pages xs limit offset (pageAt xs limit offset :: rest)

lemma length_pageAt (xs : List α) (limit offset : Nat) :
    (pageAt xs limit offset).data.length = min limit (xs.length - offset) := by
  simp [pageAt]

lemma hasMore_iff_lt : (pageAt xs limit offset).hasMore = true ↔ offset + limit < xs.length := by
  have hlength := length_pageAt xs limit offset
  have htotal : (pageAt xs limit offset).total = xs.length := rfl
  have hoffset : (pageAt xs limit offset).offset = offset := rfl
  rw [OffsetPage.hasMore, decide_eq_true_iff, hlength, htotal, hoffset]
  omega

lemma length_of_hasMore (h : (pageAt xs limit offset).hasMore = true) :
    (pageAt xs limit offset).data.length = limit := by
  have hlt := (hasMore_iff_lt).mp h
  rw [length_pageAt]
  omega

lemma data_append_drop (xs : List α) (limit offset : Nat) :
    (pageAt xs limit offset).data ++ xs.drop (offset + limit) = xs.drop offset := by
  rw [← List.drop_drop]
  exact List.take_append_drop limit (xs.drop offset)

lemma data_of_hasMore_eq_false (h : (pageAt xs limit offset).hasMore = false) :
    (pageAt xs limit offset).data = xs.drop offset := by
  have hle : xs.length ≤ offset + limit := by
    rw [← Bool.not_eq_true, hasMore_iff_lt] at h
    omega
  refine List.take_of_length_le ?_
  rw [List.length_drop]
  omega

lemma Pages.unique {pages other : List (OffsetPage α)} (h : Pages xs limit offset pages)
    (hother : Pages xs limit offset other) : other = pages := by
  induction h generalizing other with
  | last h =>
    cases hother with
    | last => rfl
    | more hmore => exact absurd (h.symm.trans hmore) Bool.false_ne_true
  | more h hrest ih =>
    cases hother with
    | last hlast => exact absurd (hlast.symm.trans h) Bool.false_ne_true
    | more _ hrest' => rw [ih hrest']

lemma ceilDiv_of_lt {n limit : Nat} (hlimit : 0 < limit) (h : limit < n) :
    max 1 (n ⌈/⌉ limit) = 1 + max 1 ((n - limit) ⌈/⌉ limit) := by
  have hsplit : n + limit - 1 = (n - limit + limit - 1) + limit := by omega
  have hpos : 0 < (n - limit + limit - 1) / limit := Nat.div_pos (by omega) hlimit
  rw [Nat.ceilDiv_eq_add_pred_div, Nat.ceilDiv_eq_add_pred_div, hsplit, Nat.add_div_right _ hlimit]
  omega

lemma ceilDiv_of_le {n limit : Nat} (hlimit : 0 < limit) (h : n ≤ limit) : max 1 (n ⌈/⌉ limit) = 1 := by
  have hle : n ⌈/⌉ limit ≤ 1 := (ceilDiv_le_iff_le_mul hlimit).mpr (by omega)
  omega

lemma Pages.length_eq {pages : List (OffsetPage α)} (hlimit : 0 < limit) (h : Pages xs limit offset pages) :
    pages.length = max 1 ((xs.length - offset) ⌈/⌉ limit) := by
  induction h with
  | @last offset h =>
    have hle : xs.length ≤ offset + limit := by
      rw [← Bool.not_eq_true, hasMore_iff_lt] at h
      omega
    rw [ceilDiv_of_le hlimit (by omega)]
    rfl
  | @more offset rest h hrest ih =>
    have hlt := (hasMore_iff_lt).mp h
    rw [length_of_hasMore h, ← Nat.sub_sub] at ih
    rw [List.length_cons, ih, ceilDiv_of_lt hlimit (by omega : limit < xs.length - offset), Nat.add_comm]

lemma Pages.data_eq {pages : List (OffsetPage α)} (h : Pages xs limit offset pages) :
    pages.flatMap OffsetPage.data = xs.drop offset := by
  induction h with
  | last h => rw [List.flatMap_singleton, data_of_hasMore_eq_false h]
  | more h hrest ih =>
    rw [List.flatMap_cons, ih, length_of_hasMore h, data_append_drop]

lemma exists_pages (xs : List α) (hlimit : 0 < limit) (offset : Nat) :
    ∃ pages, Pages xs limit offset pages := by
  -- A page that announces more has items, so that the next offset is nearer to the end.
  induction h : xs.length - offset using Nat.strongRecOn generalizing offset with
  | ind n ih =>
    cases hmore : (pageAt xs limit offset).hasMore with
    | false => exact ⟨_, .last hmore⟩
    | true =>
      have hlt := (hasMore_iff_lt).mp hmore
      have hlength := length_of_hasMore hmore
      obtain ⟨rest, hrest⟩ := ih _ (by omega) (offset + (pageAt xs limit offset).data.length) rfl
      exact ⟨_, .more hmore hrest⟩

lemma Pages.exists_final {pages : List (OffsetPage α)} (hlimit : 0 < limit)
    (h : Pages xs limit offset pages) :
    ∃ before final, pages = before ++ [final] ∧ final.hasMore = false ∧
      ∀ page ∈ before, page.hasMore = true ∧ ∃ x, page.data.getLast? = some x := by
  induction h with
  | last h => exact ⟨[], _, rfl, h, List.forall_mem_nil _⟩
  | @more offset rest h hrest ih =>
    obtain ⟨before, final, rfl, hfinal, hbefore⟩ := ih
    have hne : (pageAt xs limit offset).data ≠ [] := by
      rw [← List.length_pos_iff, length_of_hasMore h]
      exact hlimit
    exact ⟨_ :: before, final, rfl, hfinal,
      List.forall_mem_cons.mpr ⟨⟨h, _, List.getLast?_eq_some_getLast hne⟩, hbefore⟩⟩

lemma cursorPage_of_getLast? {γ ε : Type} {items : List α} {x : α} (h : items.getLast? = some x)
    (cursorOf : α → Except ε γ) :
    cursorPage items true cursorOf = (cursorOf x).map fun cursor => ⟨items, true, some cursor⟩ := by
  have hlast : (some x).mapM cursorOf = some <$> cursorOf x := rfl
  rw [cursorPage, if_pos rfl, h, hlast]
  cases cursorOf x <;> rfl

lemma cursorPage_false {γ ε : Type} (items : List α) (cursorOf : α → Except ε γ) :
    cursorPage items false cursorOf = .ok ⟨items, false, none⟩ := rfl

/--
Paging with a positive limit comes to an end after as many pages as the limit needs, at least one.
The pages give the list, all but the last announce more, and with the same pages each cursor but the
last is that of the last item.
-/
theorem pages_complete (xs : List α) (hlimit : 1 ≤ limit) : ∃ pages,
    (∀ other, Pages xs limit 0 other ↔ other = pages) ∧
    pages.length = max 1 (xs.length ⌈/⌉ limit) ∧
    pages.flatMap OffsetPage.data = xs ∧
    ∃ before final, pages = before ++ [final] ∧
      (final.hasMore = false ∧ ∀ {γ ε : Type} (cursorOf : α → Except ε γ),
        cursorPage final.data final.hasMore cursorOf = .ok ⟨final.data, false, none⟩) ∧
      ∀ page ∈ before, page.hasMore = true ∧ ∃ x, page.data.getLast? = some x ∧
        ∀ {γ ε : Type} (cursorOf : α → Except ε γ), cursorPage page.data page.hasMore cursorOf =
          (cursorOf x).map fun cursor => ⟨page.data, true, some cursor⟩ := by
  obtain ⟨pages, hpages⟩ := exists_pages xs hlimit 0
  obtain ⟨before, final, heq, hfinal, hbefore⟩ := hpages.exists_final hlimit
  refine ⟨pages, fun other => ⟨hpages.unique, fun h => h ▸ hpages⟩, hpages.length_eq hlimit, hpages.data_eq,
    before, final, heq, ⟨hfinal, fun cursorOf => ?_⟩, fun page hpage => ?_⟩
  · rw [hfinal]
    exact cursorPage_false final.data cursorOf
  · obtain ⟨hmore, x, hx⟩ := hbefore page hpage
    refine ⟨hmore, x, hx, fun cursorOf => ?_⟩
    rw [hmore]
    exact cursorPage_of_getLast? hx cursorOf

theorem pages_complete_multiple : 1 ≤ 2 ∧ ∃ pages,
    (∀ other, Pages ["a", "b", "c", "d"] 2 0 other ↔ other = pages) ∧
    pages.length = 2 ∧ pages.flatMap OffsetPage.data = ["a", "b", "c", "d"] := by
  have hlimit : 1 ≤ 2 := by decide
  obtain ⟨pages, hpages, hlength, hdata, -⟩ := pages_complete ["a", "b", "c", "d"] hlimit
  exact ⟨hlimit, pages, hpages, hlength.trans (by decide), hdata⟩

end ApiScaffold.Pagination
