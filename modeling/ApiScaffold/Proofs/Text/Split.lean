import ApiScaffold.Text.Split
import Mathlib.Tactic.Lemma

namespace ApiScaffold.Text

variable {separator : Char}

lemma notMem_of_mem_splitAt {s part : List Char} (h : part ∈ splitAt separator s) : separator ∉ part := by
  induction s generalizing part with
  | nil => simp_all [splitAt]
  | cons c rest ih =>
    rw [splitAt] at h
    split at h
    · rcases List.mem_cons.mp h with rfl | h
      · exact List.not_mem_nil
      · exact ih h
    · rename_i hc
      split at h
      · rename_i first parts hparts
        rcases List.mem_cons.mp h with rfl | h
        · have hfirst : separator ∉ first := ih (by simp [hparts])
          simp [hfirst, Ne.symm hc]
        · exact ih (by simp [hparts, h])
      · rename_i hparts
        exact absurd hparts (splitAt_ne_nil separator rest)

lemma splitAt_intercalate {parts : List (List Char)} (hne : parts ≠ [])
    (h : ∀ part ∈ parts, separator ∉ part) :
    splitAt separator ([separator].intercalate parts) = parts := by
  induction parts with
  | nil => exact absurd rfl hne
  | cons part rest ih =>
    have hpart := h part List.mem_cons_self
    cases rest with
    | nil => rw [List.intercalate_singleton, splitAt_of_notMem hpart]
    | cons next rest =>
      rw [List.intercalate_cons_cons, List.append_assoc, List.singleton_append, splitAt_append hpart,
        ih (List.cons_ne_nil next rest) fun p hp => h p (List.mem_cons_of_mem part hp)]

lemma splitAt_append_cons (separator : Char) (s t : List Char) :
    splitAt separator (s ++ separator :: t) = splitAt separator s ++ splitAt separator t := by
  induction s with
  | nil => simp [splitAt]
  | cons c rest ih =>
    rw [List.cons_append, splitAt, splitAt, ih]
    split
    · rfl
    · cases h : splitAt separator rest with
      | nil => exact absurd h (splitAt_ne_nil separator rest)
      | cons part parts => rfl

lemma intercalate_splitAt (separator : Char) (s : List Char) :
    [separator].intercalate (splitAt separator s) = s := by
  induction s with
  | nil => rfl
  | cons c rest ih =>
    rw [splitAt]
    cases h : splitAt separator rest with
    | nil => exact absurd h (splitAt_ne_nil separator rest)
    | cons part parts =>
      rw [h] at ih
      split
      · rename_i hc
        rw [List.intercalate_cons_cons, ih, hc]
        rfl
      · rw [List.intercalate_cons_cons_left, ih]

lemma mem_of_mem_splitAt {s part : List Char} (hpart : part ∈ splitAt separator s) {c : Char}
    (hc : c ∈ part) : c ∈ s := by
  induction s generalizing part with
  | nil => simp_all [splitAt]
  | cons d rest ih =>
    rw [splitAt] at hpart
    cases h : splitAt separator rest with
    | nil => exact absurd h (splitAt_ne_nil separator rest)
    | cons first parts =>
      rw [h] at hpart ih
      split at hpart
      · rcases List.mem_cons.mp hpart with rfl | hpart
        · cases hc
        · exact List.mem_cons_of_mem d (ih hpart hc)
      · rcases List.mem_cons.mp hpart with rfl | hpart
        · rcases List.mem_cons.mp hc with rfl | hc
          · exact List.mem_cons_self
          · exact List.mem_cons_of_mem d (ih List.mem_cons_self hc)
        · exact List.mem_cons_of_mem d (ih (List.mem_cons_of_mem first hpart) hc)

lemma exists_splitAt_append {s : List Char} (hs : separator ∉ s) (t : List Char) : ∃ first parts,
    splitAt separator t = first :: parts ∧ splitAt separator (s ++ t) = (s ++ first) :: parts := by
  induction s with
  | nil =>
    obtain ⟨first, parts, h⟩ := List.exists_cons_of_ne_nil (splitAt_ne_nil separator t)
    exact ⟨first, parts, h, h⟩
  | cons c rest ih =>
    rw [List.mem_cons, not_or] at hs
    obtain ⟨first, parts, ht, h⟩ := ih hs.2
    refine ⟨first, parts, ht, ?_⟩
    rw [List.cons_append, splitAt, if_neg (Ne.symm hs.1), h]
    rfl

lemma exists_splitAt_append_right (s : List Char) {t : List Char} (ht : separator ∉ t) : ∃ parts last,
    splitAt separator s = parts ++ [last] ∧ splitAt separator (s ++ t) = parts ++ [last ++ t] := by
  induction s with
  | nil => exact ⟨[], [], rfl, splitAt_of_notMem ht⟩
  | cons c rest ih =>
    obtain ⟨parts, last, hs, hst⟩ := ih
    rw [List.cons_append, splitAt, splitAt, hs, hst]
    split
    · exact ⟨[] :: parts, last, rfl, rfl⟩
    · cases parts with
      | nil => exact ⟨[], c :: last, rfl, rfl⟩
      | cons part parts => exact ⟨(c :: part) :: parts, last, rfl, rfl⟩

end ApiScaffold.Text
