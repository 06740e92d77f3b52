import ApiScaffold.Proofs.FileTree.Path
import ApiScaffold.Proofs.FileTree.Walk

/-!
Names that lead one step down, and texts made of such names. A tidy text is the only one of its kind for
its path, and the path leads straight down from where it starts.
-/

namespace ApiScaffold.Path

open Text

def IsName (s : String) : Prop := s ≠ "" ∧ s ≠ "." ∧ s ≠ ".." ∧ '/' ∉ s.toList

instance (s : String) : Decidable (IsName s) := inferInstanceAs (Decidable (_ ∧ _))

lemma isName_of_length {s : String} (hlength : 2 < s.toList.length) (hslash : '/' ∉ s.toList) : IsName s := by
  refine ⟨?_, ?_, ?_, hslash⟩ <;>
  · rintro rfl
    exact absurd hlength (by decide)

def parts (s : String) : List String := (splitAt '/' s.toList).map String.ofList

def Tidy (s : String) : Prop := ∀ name ∈ parts s, IsName name

instance (s : String) : Decidable (Tidy s) := inferInstanceAs (Decidable (∀ name ∈ parts s, IsName name))

variable {s t : String} {c : Char} {p : Path} {cwd : Location}

lemma mem_segments {name : String} : name ∈ (ofString s).segments ↔
    name ∈ parts s ∧ isSegment name.toList := by
  simp only [ofString, parts, List.mem_map, List.mem_filter]
  constructor
  · rintro ⟨part, ⟨hmem, hsegment⟩, rfl⟩
    exact ⟨⟨part, hmem, rfl⟩, by rwa [String.toList_ofList]⟩
  · rintro ⟨⟨part, hmem, rfl⟩, hsegment⟩
    exact ⟨part, ⟨hmem, by rwa [String.toList_ofList] at hsegment⟩, rfl⟩

lemma parts_append (s t : String) : parts (s ++ "/" ++ t) = parts s ++ parts t := by
  have htext : (s ++ "/" ++ t).toList = s.toList ++ '/' :: t.toList := by simp
  rw [parts, htext, splitAt_append_cons, List.map_append]
  rfl

lemma segments_append (s t : String) :
    (ofString (s ++ "/" ++ t)).segments = (ofString s).segments ++ (ofString t).segments := by
  have htext : (s ++ "/" ++ t).toList = s.toList ++ '/' :: t.toList := by simp
  simp only [ofString, htext, splitAt_append_cons, List.filter_append, List.map_append]

lemma parts_of_notMem (h : '/' ∉ s.toList) : parts s = [s] := by
  rw [parts, splitAt_of_notMem h]
  simp

lemma intercalate_parts (s : String) : "/".intercalate (parts s) = s := by
  rw [← String.toList_inj, String.toList_intercalate, parts, List.map_map]
  simp only [Function.comp_def, String.toList_ofList, List.map_id']
  exact intercalate_splitAt '/' s.toList

lemma notMem_segments (h : c ∉ s.toList) : ∀ name ∈ (ofString s).segments, c ∉ name.toList := by
  intro name hname hc
  obtain ⟨part, hpart, rfl⟩ := List.mem_map.mp (mem_segments.mp hname).1
  rw [String.toList_ofList] at hc
  exact h (mem_of_mem_splitAt hpart hc)

lemma root_ofString {c : Char} {rest : List Char} (hs : s.toList = c :: rest) (hc : c ≠ '/') :
    (ofString s).root = .relative := by
  simp [ofString, hs, rootOf, hc]

lemma up_mem_segments : ".." ∈ (ofString s).segments ↔ ".." ∈ parts s := by
  rw [mem_segments, and_iff_left (by decide)]

lemma descend_segments (h : ".." ∉ parts s) (location : Location) :
    descend location (ofString s).segments = location ++ (ofString s).segments :=
  descend_of_notMem (mt up_mem_segments.mp h) location

lemma isSegment_of_isName (h : IsName s) : isSegment s.toList := by
  obtain ⟨hempty, hdot, -⟩ := h
  rw [isSegment, Bool.and_eq_true, bne_iff_ne, bne_iff_ne]
  exact ⟨by simpa using hempty, fun hs => hdot (String.toList_inj.mp hs)⟩

lemma IsName.segments (h : IsName s) : (ofString s).segments = [s] := by
  simp [ofString, splitAt_of_notMem h.2.2.2, isSegment_of_isName h]

namespace Tidy

lemma of_isName (h : IsName s) : Tidy s := by
  intro name hname
  rw [parts_of_notMem h.2.2.2, List.mem_singleton] at hname
  rwa [hname]

lemma append (hs : Tidy s) (ht : Tidy t) : Tidy (s ++ "/" ++ t) := by
  intro name hname
  rw [parts_append, List.mem_append] at hname
  exact hname.elim (hs name) (ht name)

lemma segments (h : Tidy s) : (ofString s).segments = parts s := by
  have hfilter : (splitAt '/' s.toList).filter isSegment = splitAt '/' s.toList := by
    rw [List.filter_eq_self]
    intro part hpart
    simpa using isSegment_of_isName (h _ (List.mem_map_of_mem hpart))
  rw [ofString, hfilter, parts]

lemma exists_cons (h : Tidy s) : ∃ c rest, s.toList = c :: rest ∧ c ≠ '/' := by
  have hempty : "" ∉ parts s := fun hmem => (h "" hmem).1 rfl
  cases hs : s.toList with
  | nil => simp [parts, hs, splitAt] at hempty
  | cons c rest =>
    refine ⟨c, rest, rfl, ?_⟩
    rintro rfl
    simp [parts, hs, splitAt] at hempty

lemma root_append (h : Tidy s) (t : String) : (ofString (s ++ t)).root = .relative := by
  obtain ⟨c, rest, hs, hc⟩ := h.exists_cons
  refine root_ofString (?_ : _ = c :: (rest ++ t.toList)) hc
  simp [hs]

lemma root (h : Tidy s) : (ofString s).root = .relative := by
  obtain ⟨c, rest, hs, hc⟩ := h.exists_cons
  exact root_ofString hs hc

lemma segments_ne_nil (h : Tidy s) : (ofString s).segments ≠ [] := by
  rw [h.segments, parts, Ne, List.map_eq_nil_iff]
  exact splitAt_ne_nil '/' s.toList

lemma notMem_parts (h : Tidy s) : ".." ∉ parts s := fun hup => (h _ hup).2.2.1 rfl

lemma eq_of_segments (hs : Tidy s) (ht : Tidy t) (h : (ofString s).segments = (ofString t).segments) :
    s = t := by
  rw [hs.segments, ht.segments] at h
  rw [← intercalate_parts s, h, intercalate_parts]

end Tidy

lemma resolve_join (p : Path) (hs : (ofString s).root = .relative) :
    (p.join s).resolve cwd = descend (p.resolve cwd) (ofString s).segments := by
  rw [join, append, if_pos hs, resolve_eq, resolve_eq, descend_append]

lemma segments_join (p : Path) (hs : (ofString s).root = .relative) :
    (p.join s).segments = p.segments ++ (ofString s).segments := by
  rw [join, append, if_pos hs]

end ApiScaffold.Path
