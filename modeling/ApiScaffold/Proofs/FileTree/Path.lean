import ApiScaffold.FileTree.Path
import ApiScaffold.Proofs.Text.Split

namespace ApiScaffold.Path

open Text

def Normal (p : Path) : Prop := ∀ s ∈ p.segments, isSegment s.toList ∧ '/' ∉ s.toList

variable {p : Path}

lemma normal_ofString (s : String) : (ofString s).Normal := by
  intro segment h
  obtain ⟨part, hpart, rfl⟩ := List.mem_map.mp h
  obtain ⟨hmem, hsegment⟩ := List.mem_filter.mp hpart
  rw [String.toList_ofList]
  exact ⟨hsegment, notMem_of_mem_splitAt hmem⟩

lemma segments_joined {segments : List String} (hne : segments ≠ [])
    (h : ∀ s ∈ segments, isSegment s.toList ∧ '/' ∉ s.toList) :
    ((splitAt '/' ("/".intercalate segments).toList).filter isSegment).map String.ofList = segments := by
  have hsplit : splitAt '/' ("/".intercalate segments).toList = segments.map String.toList := by
    have hparts : ∀ part ∈ segments.map String.toList, '/' ∉ part := by
      intro part hpart
      obtain ⟨s, hs, rfl⟩ := List.mem_map.mp hpart
      exact (h s hs).2
    rw [String.toList_intercalate]
    exact splitAt_intercalate (by simpa using hne) hparts
  have hfilter : (segments.map String.toList).filter isSegment = segments.map String.toList := by
    rw [List.filter_eq_self]
    intro part hpart
    obtain ⟨s, hs, rfl⟩ := List.mem_map.mp hpart
    exact (h s hs).1
  rw [hsplit, hfilter, List.map_map]
  simp [Function.comp_def]

lemma exists_joined {segments : List String} (hne : segments ≠ [])
    (h : ∀ s ∈ segments, isSegment s.toList ∧ '/' ∉ s.toList) :
    ∃ c rest, ("/".intercalate segments).toList = c :: rest ∧ c ≠ '/' := by
  obtain ⟨s, rest, rfl⟩ := List.exists_cons_of_ne_nil hne
  obtain ⟨hsegment, hslash⟩ := h s List.mem_cons_self
  cases hs : s.toList with
  | nil =>
    rw [hs] at hsegment
    cases hsegment
  | cons c more =>
    rw [hs, List.mem_cons, not_or] at hslash
    rw [String.toList_intercalate, List.map_cons, hs, List.intercalate_cons_cons_left]
    exact ⟨c, _, rfl, Ne.symm hslash.1⟩

lemma ofString_text (h : p.Normal) : ofString p.text = p := by
  obtain ⟨root, segments⟩ := p
  by_cases hne : segments = []
  · subst hne
    cases root <;> decide
  · have hsegments := segments_joined hne h
    obtain ⟨c, rest, hjoined, hc⟩ := exists_joined hne h
    have htext : (text ⟨root, segments⟩).toList = root.text.toList ++ ("/".intercalate segments).toList := by
      simp [text, hne]
    have hslash (t : List Char) : (splitAt '/' ('/' :: t)).filter isSegment =
        (splitAt '/' t).filter isSegment := by
      rw [splitAt, if_pos rfl]
      rfl
    rw [hjoined] at hsegments htext
    rw [ofString, htext]
    cases root with
    | relative => simp [Root.text, rootOf, hc, hsegments]
    | single => simp [Root.text, rootOf, hslash, hc, hsegments]
    | double => simp [Root.text, rootOf, hslash, hc, hsegments]

lemma text_of_ne_nil {root : Root} {names : List String} (h : names ≠ []) :
    text ⟨root, names⟩ = root.text ++ "/".intercalate names := if_neg fun hnil => h hnil.2

lemma notMem_intercalate {c : Char} (hc : c ≠ '/') {names : List String} :
    c ∉ ("/".intercalate names).toList ↔ ∀ name ∈ names, c ∉ name.toList := by
  induction names with
  | nil => simp
  | cons name rest ih =>
    cases rest with
    | nil => simp
    | cons next rest =>
      rw [String.intercalate_cons_cons, List.forall_mem_cons, ← ih]
      simp [hc]

lemma notMem_text {c : Char} (hslash : c ≠ '/') (hdot : c ≠ '.') :
    c ∉ p.text.toList ↔ ∀ name ∈ p.segments, c ∉ name.toList := by
  obtain ⟨root, names⟩ := p
  have hroot : c ∉ root.text.toList := by
    cases root <;> simp [Root.text, hslash]
  by_cases hnil : names = []
  · subst hnil
    cases root <;> simp [text, Root.text, hslash, hdot]
  · rw [text_of_ne_nil hnil, String.toList_append, List.mem_append, or_iff_right hroot,
      notMem_intercalate hslash]

end ApiScaffold.Path
