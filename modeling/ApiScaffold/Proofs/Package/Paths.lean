import ApiScaffold.Proofs.Text.Lines
import Mathlib.Data.List.Nodup

namespace ApiScaffold

open Text

abbrev PathFamily := String × List String

def PathFamily.paths (f : PathFamily) : List String := f.2.map (f.1 ++ ·)

lemma ne_of_clash {p q : String} (h : clash p.toList q.toList) (s t : String) : p ++ s ≠ q ++ t := by
  intro heq
  have hclash := clash_append h s.toList t.toList
  rw [← String.toList_append, ← String.toList_append, heq] at hclash
  exact not_prefix_of_clash hclash (List.prefix_refl _)

lemma ne_of_clash_reverse {p q : String} (h : clash p.toList.reverse q.toList.reverse) (s t : String) :
    s ++ p ≠ t ++ q := by
  intro heq
  have hclash := clash_append h s.toList.reverse t.toList.reverse
  rw [← List.reverse_append, ← List.reverse_append, ← String.toList_append,
    ← String.toList_append, heq] at hclash
  exact not_prefix_of_clash hclash (List.prefix_refl _)

lemma nodup_append_right (p : String) {rests : List String} (h : rests.Nodup) : (rests.map (p ++ ·)).Nodup :=
  h.map fun s t hst => by simpa [← String.toList_inj] using hst

lemma nodup_append_left (s : String) {starts : List String} (h : starts.Nodup) :
    (starts.map (· ++ s)).Nodup :=
  h.map fun p q hpq => by simpa [← String.toList_inj] using hpq

lemma nodup_paths {families : List PathFamily}
    (hclash : (families.map Prod.fst).Pairwise fun p q => clash p.toList q.toList)
    (hn : ∀ f ∈ families, f.2.Nodup) : (families.flatMap PathFamily.paths).Nodup := by
  rw [List.nodup_flatMap]
  refine ⟨fun f hf => nodup_append_right f.1 (hn f hf), ?_⟩
  refine (List.pairwise_map.mp hclash).imp fun {f g} hfg => ?_
  rintro path hf hg
  obtain ⟨s, -, rfl⟩ := List.mem_map.mp hf
  obtain ⟨t, -, heq⟩ := List.mem_map.mp hg
  exact ne_of_clash hfg s t heq.symm

lemma eq_of_append_cons {s t u v : List Char} {c : Char} (hs : c ∉ s) (ht : c ∉ t)
    (h : s ++ c :: u = t ++ c :: v) :
    s = t := by
  induction s generalizing t with
  | nil =>
    cases t with
    | nil => rfl
    | cons d t =>
      simp only [List.nil_append, List.cons_append, List.cons.injEq] at h
      exact absurd (h.1 ▸ List.mem_cons_self) ht
  | cons a s ih =>
    simp only [List.mem_cons, not_or] at hs
    cases t with
    | nil =>
      simp only [List.nil_append, List.cons_append, List.cons.injEq] at h
      exact absurd h.1.symm hs.1
    | cons d t =>
      simp only [List.mem_cons, not_or] at ht
      simp only [List.cons_append, List.cons.injEq] at h
      rw [h.1, ih hs.2 ht.2 h.2]

end ApiScaffold
