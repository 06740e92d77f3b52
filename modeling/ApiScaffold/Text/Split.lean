namespace ApiScaffold.Text

def splitAt (separator : Char) : List Char → List (List Char)
  | [] => [[]]
  | c :: rest =>
    if c = separator then [] :: splitAt separator rest
    else
      match splitAt separator rest with
      | part :: parts => (c :: part) :: parts
      | [] => [[c]]

theorem splitAt_ne_nil (separator : Char) (s : List Char) : splitAt separator s ≠ [] := by
  cases s with
  | nil => simp [splitAt]
  | cons c rest => simp only [splitAt]; repeat' split
                   all_goals simp

theorem splitAt_of_notMem {separator : Char} {s : List Char} (h : separator ∉ s) :
    splitAt separator s = [s] := by
  induction s with
  | nil => rfl
  | cons c rest ih =>
    simp only [List.mem_cons, not_or] at h
    simp [splitAt, ih h.2, Ne.symm h.1]

theorem splitAt_append {separator : Char} {s : List Char} (h : separator ∉ s) (t : List Char) :
    splitAt separator (s ++ separator :: t) = s :: splitAt separator t := by
  induction s with
  | nil => simp [splitAt]
  | cons c rest ih =>
    simp only [List.mem_cons, not_or] at h
    simp [splitAt, ih h.2, Ne.symm h.1]

end ApiScaffold.Text
