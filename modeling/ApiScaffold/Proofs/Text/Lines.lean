import Mathlib.Tactic.Lemma

namespace ApiScaffold.Text

def linesFrom (line : List Char) : List Char → List (List Char) × List Char
  | [] => ([], line)
  | c :: rest =>
    if c = '\n' then (line :: (linesFrom [] rest).1, (linesFrom [] rest).2) else linesFrom (line ++ [c]) rest

def lines (s : String) : List (List Char) := (linesFrom [] s.toList).1

lemma linesFrom_append (line s t : List Char) :
    linesFrom line (s ++ t) = ((linesFrom line s).1 ++ (linesFrom (linesFrom line s).2 t).1,
      (linesFrom (linesFrom line s).2 t).2) := by
  induction s generalizing line with
  | nil => simp [linesFrom]
  | cons c rest ih =>
    by_cases hc : c = '\n'
    · simp [linesFrom, hc, ih]
    · simp [linesFrom, hc, ih]

lemma linesFrom_of_notMem {s : List Char} (line : List Char) (h : '\n' ∉ s) :
    linesFrom line s = ([], line ++ s) := by
  induction s generalizing line with
  | nil => simp [linesFrom]
  | cons c rest ih =>
    simp only [List.mem_cons, not_or] at h
    simp [linesFrom, Ne.symm h.1, ih _ h.2]

lemma notMem_linesFrom {line : List Char} (h : '\n' ∉ line) (s : List Char) :
    '\n' ∉ (linesFrom line s).2 := by
  induction s generalizing line with
  | nil => exact h
  | cons c rest ih =>
    simp only [linesFrom]
    split
    · exact ih List.not_mem_nil
    · rename_i hc
      exact ih (by simp [h, Ne.symm hc])

lemma linesFrom_line {s : List Char} (h : '\n' ∉ s) (t : List Char) :
    linesFrom [] (s ++ '\n' :: t) = (s :: (linesFrom [] t).1, (linesFrom [] t).2) := by
  rw [linesFrom_append, linesFrom_of_notMem [] h]
  rfl

def unlines (ls : List (List Char)) : List Char := ls.flatMap (· ++ ['\n'])

lemma linesFrom_unlines {ls : List (List Char)} (h : ∀ l ∈ ls, '\n' ∉ l) :
    linesFrom [] (unlines ls) = (ls, []) := by
  induction ls with
  | nil => rfl
  | cons l rest ih =>
    have hl := linesFrom_line (h l List.mem_cons_self) (unlines rest)
    rw [ih fun m hm => h m (List.mem_cons_of_mem l hm)] at hl
    simpa [unlines] using hl

def startsWithOne (starts : List (List Char)) (line : List Char) : Bool := starts.any (·.isPrefixOf line)

def linesWith (starts : List (List Char)) (s : String) : List (List Char) :=
  (lines s).filter (startsWithOne starts)

lemma lines_ofList_unlines {ls : List (List Char)} (h : ∀ l ∈ ls, '\n' ∉ l) :
    lines (String.ofList (unlines ls)) = ls := by
  rw [lines, String.toList_ofList, linesFrom_unlines h]

lemma lines_append {ls : List (List Char)} (h : ∀ l ∈ ls, '\n' ∉ l) (t : String) :
    lines (String.ofList (unlines ls) ++ t) = ls ++ lines t := by
  rw [lines, String.toList_append, String.toList_ofList, linesFrom_append, linesFrom_unlines h]
  rfl

lemma unlines_flatMap {α : Type} (f : α → List (List Char)) (items : List α) :
    unlines (items.flatMap f) = items.flatMap fun x => unlines (f x) := by
  simp [unlines, List.flatMap_assoc]

def clash : List Char → List Char → Bool
  | [], _ | _, [] => false
  | a :: s, b :: t => if a = b then clash s t else true

lemma clash_append {s t : List Char} (h : clash s t) (u v : List Char) : clash (s ++ u) (t ++ v) := by
  induction s generalizing t with
  | nil => simp [clash] at h
  | cons a s ih =>
    cases t with
    | nil => simp [clash] at h
    | cons b t =>
      simp only [clash, List.cons_append] at h ⊢
      split
      · rename_i hab
        rw [if_pos hab] at h
        exact ih h
      · rfl

lemma clash_append_append (p s t : List Char) : clash (p ++ s) (p ++ t) = clash s t := by
  induction p with
  | nil => rfl
  | cons c p ih => simp [clash, ih]

lemma not_prefix_of_clash {s t : List Char} (h : clash s t) : ¬ t <+: s := by
  rintro ⟨u, rfl⟩
  induction t with
  | nil => cases u <;> simp [clash] at h
  | cons c t ih =>
    simp only [List.cons_append, clash, if_true] at h
    exact ih h

lemma not_prefix_append_of_clash {s t : List Char} (h : clash s t) (rest : List Char) :
    ¬ t <+: s ++ rest := by
  have hclash := clash_append h rest []
  rw [List.append_nil] at hclash
  exact not_prefix_of_clash hclash

end ApiScaffold.Text
