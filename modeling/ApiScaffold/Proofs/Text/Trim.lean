import ApiScaffold.Text.Class
import Mathlib.Data.List.TakeWhile
import Mathlib.Tactic.Lemma

namespace ApiScaffold.Text

variable {p : Char → Bool} {before after s t : List Char}

lemma dropWhile_append_of_stop (hbefore : ∀ c ∈ before, p c) (ht : ∀ c ∈ t.head?, p c = false) :
    (before ++ t).dropWhile p = t := by
  rw [List.dropWhile_append_of_pos hbefore]
  cases t with
  | nil => rfl
  | cons c rest => rw [List.dropWhile_cons_of_neg (by simpa using ht)]

lemma takeWhile_append_of_stop (hbefore : ∀ c ∈ before, p c) (ht : ∀ c ∈ t.head?, p c = false) :
    (before ++ t).takeWhile p = before := by
  rw [List.takeWhile_append_of_pos hbefore]
  cases t with
  | nil => simp
  | cons c rest => rw [List.takeWhile_cons_of_neg (by simpa using ht), List.append_nil]

lemma head?_dropWhile (p : Char → Bool) (s : List Char) : ∀ c ∈ (s.dropWhile p).head?, p c = false := by
  intro c hc
  have h := List.head?_dropWhile_not p s
  rw [Option.mem_def.mp hc] at h
  exact h

lemma exists_append_of_stop (p : Char → Bool) (s : List Char) :
    ∃ before after, s = before ++ after ∧ (∀ c ∈ before, p c) ∧
    ∀ c ∈ after.head?, p c = false :=
  ⟨s.takeWhile p, s.dropWhile p, List.takeWhile_append_dropWhile.symm, fun _ hc => List.mem_takeWhile_imp hc,
    head?_dropWhile p s⟩

structure Trimmed (s : List Char) : Prop where
  first : ∀ c ∈ s.head?, isBlank c = false
  last : ∀ c ∈ s.getLast?, isBlank c = false

lemma trimmed_iff : Trimmed s ↔ s.head?.all (!isBlank ·) ∧ s.getLast?.all (!isBlank ·) := by
  rw [Option.all_eq_true, Option.all_eq_true]
  simp only [Bool.not_eq_true']
  exact ⟨fun h => ⟨fun c hc => h.first c hc, fun c hc => h.last c hc⟩, fun h => ⟨h.1, h.2⟩⟩

lemma stripEnd_append (h : ∀ c ∈ s.getLast?, isBlank c = false) (hafter : ∀ c ∈ after, isBlank c) :
    stripEnd (s ++ after) = s := by
  rw [stripEnd, List.reverse_append, dropWhile_append_of_stop (by simpa using hafter) (by simpa using h),
    List.reverse_reverse]

lemma strip_eq_stripEnd (s : List Char) : strip s = stripEnd (s.dropWhile isBlank) := rfl

lemma strip_append (hbefore : ∀ c ∈ before, isBlank c) (ht : Trimmed t) (hafter : ∀ c ∈ after, isBlank c) :
    strip (before ++ (t ++ after)) = t := by
  cases t with
  | nil =>
    rw [strip_eq_stripEnd, List.dropWhile_append_of_pos hbefore, List.nil_append,
      List.dropWhile_eq_nil_iff.mpr hafter]
    rfl
  | cons c rest =>
    rw [strip_eq_stripEnd, dropWhile_append_of_stop hbefore (by simpa using ht.first),
      stripEnd_append ht.last hafter]

lemma strip_of_blank (h : ∀ c ∈ s, isBlank c) : strip s = [] := by
  have hempty : Trimmed [] := ⟨by simp, by simp⟩
  have hstrip := strip_append h hempty (List.forall_mem_nil _)
  rwa [List.append_nil, List.append_nil] at hstrip

lemma exists_stripEnd_append (s : List Char) : ∃ after, s = stripEnd s ++ after ∧ ∀ c ∈ after, isBlank c := by
  refine ⟨(s.reverse.takeWhile isBlank).reverse, ?_,
    fun c hc => List.mem_takeWhile_imp (List.mem_reverse.mp hc)⟩
  rw [stripEnd, ← List.reverse_append, List.takeWhile_append_dropWhile, List.reverse_reverse]

lemma exists_append_strip (s : List Char) : ∃ before after, s = before ++ (strip s ++ after) ∧
    (∀ c ∈ before, isBlank c) ∧ ∀ c ∈ after, isBlank c := by
  obtain ⟨after, hafter, hblank⟩ := exists_stripEnd_append (s.dropWhile isBlank)
  refine ⟨s.takeWhile isBlank, after, ?_, fun c hc => List.mem_takeWhile_imp hc, hblank⟩
  rw [strip_eq_stripEnd, ← hafter, List.takeWhile_append_dropWhile]

lemma trimmed_strip (s : List Char) : Trimmed (strip s) where
  first c hc := by
    obtain ⟨after, hafter, -⟩ := exists_stripEnd_append (s.dropWhile isBlank)
    refine head?_dropWhile isBlank s c ?_
    rw [hafter, ← strip_eq_stripEnd, List.head?_append, Option.mem_def.mp hc]
    rfl
  last c hc := by
    refine head?_dropWhile isBlank (s.dropWhile isBlank).reverse c ?_
    rwa [strip_eq_stripEnd, stripEnd, List.getLast?_reverse] at hc

end ApiScaffold.Text
