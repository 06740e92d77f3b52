import ApiScaffold.Api.PathTemplate
import Mathlib.Tactic.Lemma

namespace ApiScaffold.PathTemplate

lemma name?_append {name : List Char} (hne : name ≠ []) (h : '\x7d' ∉ name) (rest : List Char) :
    name? (name ++ '\x7d' :: rest) = some (name, rest) := by
  have hp : ∀ c ∈ name, (c != '\x7d') = true := fun c hc => by
    simp only [bne_iff_ne, ne_eq]
    rintro rfl
    exact h hc
  have htake : (name ++ '\x7d' :: rest).takeWhile (· != '\x7d') = name := by
    rw [List.takeWhile_append_of_pos hp]
    simp
  have hdrop : (name ++ '\x7d' :: rest).dropWhile (· != '\x7d') = '\x7d' :: rest := by
    rw [List.dropWhile_append_of_pos hp]
    simp
  unfold name?
  rw [htake, hdrop]
  obtain ⟨c, more, rfl⟩ := List.exists_cons_of_ne_nil hne
  rfl

lemma pieces_nil : pieces [] = [] := by rw [pieces]

lemma pieces_literal {c : Char} (h : c ≠ '\x7b') (rest : List Char) :
    pieces (c :: rest) = .literal c :: pieces rest := by
  rw [pieces, if_neg h]

lemma pieces_of_name? {tail name rest : List Char} (h : name? tail = some (name, rest)) :
    pieces ('\x7b' :: tail) = .param name :: pieces rest := by
  rw [pieces, if_pos rfl]
  split
  · rename_i hname
    rw [h] at hname
    cases hname
    rfl
  · rename_i hname
    rw [h] at hname
    cases hname

lemma pieces_of_name?_eq_none {tail : List Char} (h : name? tail = none) :
    pieces ('\x7b' :: tail) = .literal '\x7b' :: pieces tail := by
  rw [pieces, if_pos rfl]
  split
  · rename_i hname
    rw [h] at hname
    cases hname
  · rfl

lemma pieces_param {name : List Char} (hne : name ≠ []) (h : '\x7d' ∉ name) (rest : List Char) :
    pieces ('\x7b' :: (name ++ '\x7d' :: rest)) = .param name :: pieces rest :=
  pieces_of_name? (name?_append hne h rest)

lemma pieces_append {s : List Char} (h : '\x7b' ∉ s) (rest : List Char) :
    pieces (s ++ rest) = s.map .literal ++ pieces rest := by
  induction s with
  | nil => rfl
  | cons c s ih =>
    simp only [List.mem_cons, not_or] at h
    rw [List.cons_append, pieces_literal (Ne.symm h.1), ih h.2]
    rfl

lemma pieces_of_notMem {s : List Char} (h : '\x7b' ∉ s) : pieces s = s.map .literal := by
  simpa [pieces_nil] using pieces_append h []

lemma eq_of_name? {s name rest : List Char} (h : name? s = some (name, rest)) :
    ∃ c, s = name ++ c :: rest := by
  unfold name? at h
  split at h
  · rename_i d more c after htake hdrop
    obtain ⟨rfl, rfl⟩ := Prod.mk.inj (Option.some.inj h)
    exact ⟨c, by rw [← htake, ← hdrop, List.takeWhile_append_dropWhile]⟩
  · cases h

lemma mem_of_mem_pieces {s name : List Char} {c : Char} (h : .param name ∈ pieces s)
    (hc : c ∈ name) : c ∈ s := by
  induction s using pieces.induct with
  | case1 => simp [pieces_nil] at h
  | case2 tail first rest hname ih =>
    obtain ⟨brace, rfl⟩ := eq_of_name? hname
    rw [pieces_of_name? hname, List.mem_cons] at h
    rcases h with h | h
    · obtain rfl := Piece.param.inj h
      simp [hc]
    · simp [ih h]
  | case3 tail hname ih =>
    rw [pieces_of_name?_eq_none hname, List.mem_cons] at h
    exact List.mem_cons_of_mem _ (ih (h.resolve_left nofun))
  | case4 d tail hd ih =>
    rw [pieces_literal hd, List.mem_cons] at h
    exact List.mem_cons_of_mem _ (ih (h.resolve_left nofun))

/-- Each opening brace has a closing one right behind it. -/
def closesAtOnce : List Char → Bool
  | [] => true
  | c :: rest => (c ≠ '\x7b' || rest.head? = some '\x7d') && closesAtOnce rest

lemma closesAtOnce_append {s : List Char} {c : Char} (hc : c ≠ '\x7d') (rest : List Char) :
    closesAtOnce (s ++ c :: rest) = (closesAtOnce s && closesAtOnce (c :: rest)) := by
  induction s with
  | nil => rfl
  | cons x s ih =>
    rw [List.cons_append, closesAtOnce, closesAtOnce, ih, Bool.and_assoc]
    cases s <;> simp [hc]

lemma head?_ne_of_name? {s name rest : List Char} (h : name? s = some (name, rest)) :
    s.head? ≠ some '\x7d' := by
  cases s with
  | nil => simp
  | cons c s =>
    simp only [List.head?_cons, ne_eq, Option.some.injEq]
    rintro rfl
    simp [name?] at h

lemma head?_of_name?_eq_none {s : List Char} (h : name? s = none) (hmem : '\x7d' ∈ s) :
    s.head? = some '\x7d' := by
  obtain ⟨name, rest, rfl, hname⟩ := List.eq_append_cons_of_mem hmem
  by_cases hne : name = []
  · rw [hne]
    rfl
  · rw [name?_append hne hname] at h
    cases h

lemma getLast?_tail {c : Char} {s : List Char} (h : ∀ x ∈ (c :: s).getLast?, x = '\x7d') :
    ∀ x ∈ s.getLast?, x = '\x7d' := by
  cases s with
  | nil => simp
  | cons d s => simpa using h

lemma forall_pieces_iff {s : List Char} (h : ∀ c ∈ s.getLast?, c = '\x7d') :
    (∀ name, .param name ∉ pieces s) ↔ closesAtOnce s := by
  induction s using pieces.induct with
  | case1 => simp [pieces_nil, closesAtOnce]
  | case2 tail name rest hname ih =>
    have hparam : .param name ∈ pieces ('\x7b' :: tail) := by
      rw [pieces_of_name? hname]
      exact List.mem_cons_self
    have hhead := head?_ne_of_name? hname
    constructor
    · intro hall
      exact absurd hparam (hall name)
    · intro hclosed
      simp [closesAtOnce, hhead] at hclosed
  | case3 tail hname ih =>
    have hne : tail ≠ [] := by
      rintro rfl
      exact absurd (h '\x7b' rfl) (by decide)
    have hmem : '\x7d' ∈ tail := by
      have hlast := getLast?_tail h _ (List.getLast?_eq_some_getLast hne)
      exact hlast ▸ List.getLast_mem hne
    rw [pieces_of_name?_eq_none hname, closesAtOnce, head?_of_name?_eq_none hname hmem]
    simpa using ih (getLast?_tail h)
  | case4 c tail hc ih =>
    rw [pieces_literal hc, closesAtOnce]
    simp only [List.mem_cons, reduceCtorEq, false_or]
    rw [ih (getLast?_tail h)]
    simp [hc]

lemma params_eq_nil_iff {s : String} (h : s.toList.getLast? = some '\x7d') :
    params s = [] ↔ closesAtOnce s.toList := by
  rw [← forall_pieces_iff (by simp [h]), params, List.filterMap_eq_nil_iff]
  constructor
  · intro hall name hmem
    simpa using hall _ hmem
  · rintro hall (c | name) hp
    · rfl
    · exact absurd hp (hall name)

end ApiScaffold.PathTemplate
