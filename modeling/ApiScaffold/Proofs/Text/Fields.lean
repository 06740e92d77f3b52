import ApiScaffold.Proofs.Text.Lines

namespace ApiScaffold.Text

def upTo (mark : List Char) : List Char → Option (List Char × List Char)
  | [] => none
  | c :: rest =>
    if mark.isPrefixOf (c :: rest) then some ([], (c :: rest).drop mark.length)
    else (upTo mark rest).map fun (text, after) => (c :: text, after)

def fields (marks : List (List Char)) (s : List Char) : Option (List (List Char)) :=
  match marks with
  | [] => some []
  | mark :: more => (upTo mark s).bind fun (text, after) => (fields more after).map (text :: ·)

def readFields (start : List Char) (marks : List (List Char)) (line : List Char) :
    Option (List (List Char)) :=
  if start.isPrefixOf line then fields marks (line.drop start.length) else none

def layout (start : List Char) (parts : List (List Char × List Char)) : List Char :=
  start ++ parts.flatMap fun part => part.1 ++ part.2

lemma upTo_append {c : Char} {text mark : List Char} (hmark : c ∈ mark.head?) (h : c ∉ text)
    (after : List Char) :
    upTo mark (text ++ (mark ++ after)) = some (text, after) := by
  obtain ⟨more, rfl⟩ := List.head?_eq_some_iff.mp hmark
  induction text with
  | nil => simp [upTo]
  | cons d text ih =>
    simp only [List.mem_cons, not_or] at h
    have hih := ih h.2
    simp only [List.cons_append] at hih ⊢
    simp [upTo, h.1, hih]

lemma fields_flatMap {parts : List (List Char × List Char)}
    (h : ∀ part ∈ parts, ∃ c ∈ part.2.head?, c ∉ part.1)
    (after : List Char) : fields (parts.map (·.2)) ((parts.flatMap fun part => part.1 ++ part.2) ++ after) =
      some (parts.map (·.1)) := by
  induction parts with
  | nil => rfl
  | cons part rest ih =>
    obtain ⟨c, hmark, hc⟩ := h part List.mem_cons_self
    have hrest := ih fun p hp => h p (List.mem_cons_of_mem part hp)
    rw [List.flatMap_cons, List.append_assoc, List.append_assoc, List.map_cons, fields, upTo_append hmark hc]
    simp only [Option.bind_some, hrest, Option.map_some, List.map_cons]

lemma readFields_layout (parts : List (List Char × List Char))
    (h : ∀ part ∈ parts, ∃ c ∈ part.2.head?, c ∉ part.1)
    (start after : List Char) : readFields start (parts.map (·.2)) (layout start parts ++ after) =
      some (parts.map (·.1)) := by
  rw [layout, List.append_assoc, readFields, if_pos (by simp), List.drop_left, fields_flatMap h]

lemma notMem_layout {c : Char} {start : List Char} {parts : List (List Char × List Char)} (hstart : c ∉ start)
    (h : ∀ part ∈ parts, c ∉ part.1 ∧ c ∉ part.2) : c ∉ layout start parts := by
  rw [layout, List.mem_append, not_or]
  refine ⟨hstart, fun hc => ?_⟩
  obtain ⟨part, hpart, hc⟩ := List.mem_flatMap.mp hc
  rcases List.mem_append.mp hc with hc | hc
  · exact (h part hpart).1 hc
  · exact (h part hpart).2 hc

end ApiScaffold.Text
