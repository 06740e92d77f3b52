import Mathlib.Data.List.Nodup
import Mathlib.Tactic.Lemma

namespace ApiScaffold

variable {α β γ : Type} [BEq α] [LawfulBEq α]

def addNew (found : List α) (x : α) : List α := if x ∈ found then found else found ++ [x]

lemma nodup_addNew {found : List α} (h : found.Nodup) (x : α) : (addNew found x).Nodup := by
  unfold addNew
  split
  · exact h
  · rename_i hx
    simpa using h.concat hx

lemma foldl_addNew (found xs : List α) :
    xs.foldl addNew found = found ++ (xs.filter fun x => !found.contains x).eraseDups := by
  induction xs generalizing found with
  | nil => simp
  | cons x rest ih =>
    rw [List.foldl_cons, ih, addNew]
    by_cases hx : x ∈ found
    · simp [hx]
    · have hfilter : (rest.filter fun y => !(found ++ [x]).contains y) =
          (rest.filter fun y => !found.contains y).filter fun y => !y == x := by
        rw [List.filter_filter]
        refine List.filter_congr fun y _ => ?_
        by_cases hy : y ∈ found <;> by_cases hyx : y = x <;> simp [hy, hyx]
      rw [if_neg hx, hfilter, List.filter_cons_of_pos (by simpa using hx), List.eraseDups_cons]
      simp

lemma foldl_addNew_nil (xs : List α) : xs.foldl addNew [] = xs.eraseDups := by
  simpa using foldl_addNew [] xs

lemma nodup_foldl_addNew {found : List α} (h : found.Nodup) (xs : List α) :
    (xs.foldl addNew found).Nodup := by
  induction xs generalizing found with
  | nil => exact h
  | cons x rest ih => exact ih (nodup_addNew h x)

lemma nodup_eraseDups (xs : List α) : xs.eraseDups.Nodup :=
  foldl_addNew_nil xs ▸ nodup_foldl_addNew List.nodup_nil xs

lemma eraseDups_of_nodup {xs : List α} (h : xs.Nodup) : xs.eraseDups = xs := by
  induction xs with
  | nil => rfl
  | cons x rest ih =>
    obtain ⟨hx, hrest⟩ := List.nodup_cons.mp h
    have hfilter : (rest.filter fun y => !y == x) = rest := by
      rw [List.filter_eq_self]
      intro y hy
      simpa using fun hyx : y = x => hx (hyx ▸ hy)
    rw [List.eraseDups_cons, hfilter, ih hrest]

lemma foldl_groups {step : β → γ → β} (table : List α → β) {group : α → List γ}
    (h : ∀ found x, found.Nodup → (group x).foldl step (table found) = table (addNew found x)) (xs : List α) :
    (xs.flatMap group).foldl step (table []) = table xs.eraseDups := by
  have hrun (found : List α) (hn : found.Nodup) :
      (xs.flatMap group).foldl step (table found) = table (xs.foldl addNew found) := by
    induction xs generalizing found with
    | nil => rfl
    | cons x rest ih =>
      rw [List.flatMap_cons, List.foldl_append, h found x hn, ih _ (nodup_addNew hn x), List.foldl_cons]
  rw [hrun [] List.nodup_nil, foldl_addNew_nil]

lemma eraseDups_map {δ : Type} [BEq δ] [LawfulBEq δ] {f : α → δ} (hf : Function.Injective f) (xs : List α) :
    (xs.map f).eraseDups = xs.eraseDups.map f := by
  have hstep (found : List α) (x : α) (_ : found.Nodup) :
      [f x].foldl addNew (found.map f) = (addNew found x).map f := by
    by_cases hx : x ∈ found
    · simp [addNew, hx, List.mem_map_of_mem hx]
    · simp [addNew, hx, hf.eq_iff]
  have hgroups : (xs.flatMap fun x => [f x]).foldl addNew (List.map f []) = xs.eraseDups.map f :=
    foldl_groups (List.map f) hstep xs
  rwa [← List.map_eq_flatMap, List.map_nil, foldl_addNew_nil] at hgroups

end ApiScaffold
