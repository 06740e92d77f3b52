import ApiScaffold.Config.File
import ApiScaffold.Proofs.FileTree.Walk
import ApiScaffold.Proofs.Json.Overlong
import ApiScaffold.Proofs.Text.Utf8

namespace ApiScaffold.Config

open Chain

def LoadFault.isConfigError : LoadFault → Bool
  | .notJson .. | .notObject _ | .invalid _ => true
  | .file _ | .encoding _ | .digits _ => false

variable {tree : FileTree} {cwd : Location} {path : Path} {content : ByteArray}

lemma load_of_read (h : tree.read cwd path = .ok content) : load tree cwd path = ofBytes path content := by
  obtain ⟨entry, hentry, -⟩ := bind_eq_ok.mp h
  have hexists : tree.exists? cwd path = .ok true := by rw [FileTree.exists?, hentry]
  rw [load, hexists, h]
  simp

lemma exists_toUTF8_eq (h : content.IsValidUTF8) : ∃ text : String, text.toUTF8 = content :=
  ⟨.fromUTF8 content h, rfl⟩

lemma exists_encoding (path : Path) (h : ¬ content.IsValidUTF8) :
    ∃ fault, ofBytes path content = .error (.encoding fault) := by
  rw [ofBytes, Utf8.decode, String.fromUTF8?, dif_neg h]
  exact ⟨_, rfl⟩

lemma digits_of_ofBytes {text : String} {fault : LoadFault} (h : ofBytes path text.toUTF8 = .error fault)
    (hfault : fault.isConfigError = false) :
    ∃ count offset, Json.parse (Utf8.unifyLines text.toList) = .error ⟨.tooManyDigits count, offset⟩ := by
  rw [ofBytes, Utf8.decode_toUTF8] at h
  simp only [mapError_ok, ok_bind] at h
  split at h
  · rename_i count offset hparse
    exact ⟨count, offset, hparse⟩
  · cases h
    cases hfault
  · rename_i entries _
    cases hentries : ofEntries entries with
    | ok c =>
      rw [hentries] at h
      cases h
    | error fault =>
      rw [hentries] at h
      cases h
      cases hfault
  · cases h
    cases hfault

lemma ofBytes_of_tooManyDigits {text : String} {count offset : Nat}
    (h : Json.parse (Utf8.unifyLines text.toList) = .error ⟨.tooManyDigits count, offset⟩) :
    ofBytes path text.toUTF8 = .error (.digits count) := by
  rw [ofBytes, Utf8.decode_toUTF8]
  simp only [mapError_ok, ok_bind, h]

/--
A file that is there gives a configuration or an error of the configuration, unless it is not UTF-8
or its text has a whole number with too many digits where the text in front of it lacks a value. The
reader keeps its own stack: a parser that calls itself may also give up on values nested too deeply,
and that fault is none of these.
-/
theorem load_escapes_iff (h : tree.read cwd path = .ok content) :
    (∃ fault, load tree cwd path = .error fault ∧ fault.isConfigError = false) ↔
      ¬ content.IsValidUTF8 ∨ ∃ text : String, text.toUTF8 = content ∧ ∃ before number count,
        Utf8.unifyLines text.toList = before ++ number ∧
        Json.parse before = .error ⟨.expectedValue, before.length⟩ ∧
          Json.Overlong count number := by
  rw [load_of_read h]
  constructor
  · rintro ⟨fault, hload, hfault⟩
    by_cases hvalid : content.IsValidUTF8
    · obtain ⟨text, rfl⟩ := exists_toUTF8_eq hvalid
      obtain ⟨count, offset, hparse⟩ := digits_of_ofBytes hload hfault
      obtain ⟨before, number, hsplit, rfl, hbefore, hnumber⟩ := Json.parse_eq_tooManyDigits_iff.mp hparse
      exact .inr ⟨text, rfl, before, number, count, hsplit, hbefore, hnumber⟩
    · exact .inl hvalid
  · rintro (hvalid | ⟨text, rfl, before, number, count, hsplit, hbefore, hnumber⟩)
    · obtain ⟨fault, hload⟩ := exists_encoding path hvalid
      exact ⟨_, hload, rfl⟩
    · have hparse := Json.parse_eq_tooManyDigits_iff.mpr ⟨before, number, hsplit, rfl, hbefore, hnumber⟩
      exact ⟨_, ofBytes_of_tooManyDigits hparse, rfl⟩

def onlyFile (content : ByteArray) : FileTree := ⟨[([fileName], .file content)]⟩

lemma read_onlyFile (content : ByteArray) :
    (onlyFile content).read [] ⟨.relative, [fileName]⟩ = .ok content := by
  have hfits : FileTree.Fits ⟨.relative, [fileName]⟩ := ⟨by decide, by decide⟩
  rw [FileTree.read_eq_ok_iff, FileTree.entryAt_eq_ok, FileTree.locate_eq_ok_iff]
  exact ⟨⟨hfits, rfl⟩, rfl⟩

lemma overlong_replicate {count : Nat} (h : maxDigits < count) :
    Json.Overlong count (List.replicate count '1') := by
  have hone : ∀ c ∈ List.replicate count '1', c = '1' := fun c hc => List.eq_of_mem_replicate hc
  have hleading : (List.replicate count '1').head? ≠ some '0' := fun hzero =>
    absurd (hone '0' (List.mem_of_head? hzero)) (by decide)
  have hnumber : Json.Overlong count ([] ++ List.replicate count '1' ++ []) :=
    .mk (.inl rfl) (fun c hc => hone c hc ▸ rfl) hleading List.length_replicate h (by simp) rfl rfl
  simpa using hnumber

theorem load_escapes_iff_ones :
    let content := (String.ofList (List.replicate 4301 '1')).toUTF8
    (onlyFile content).read [] ⟨.relative, [fileName]⟩ = .ok content ∧
      ∃ fault, load (onlyFile content) [] ⟨.relative, [fileName]⟩ = .error fault ∧
      fault.isConfigError = false := by
  intro content
  have hread := read_onlyFile content
  have hreturn : '\r' ∉ List.replicate 4301 '1' := fun h => absurd (List.eq_of_mem_replicate h) (by decide)
  have hlines : Utf8.unifyLines (String.ofList (List.replicate 4301 '1')).toList =
      [] ++ List.replicate 4301 '1' := by
    rw [String.toList_ofList, Utf8.unifyLines_of_notMem hreturn, List.nil_append]
  have hbefore : Json.parse [] = .error ⟨.expectedValue, 0⟩ := by cbv
  have hnumber : Json.Overlong 4301 (List.replicate 4301 '1') := overlong_replicate (by decide)
  exact ⟨hread, (load_escapes_iff hread).mpr (.inr ⟨_, rfl, [], _, 4301, hlines, hbefore, hnumber⟩)⟩

/-- A byte that starts no character is not told as an error of the configuration. -/
theorem load_invalid_start_byte :
    (onlyFile ⟨#[0xff]⟩).read [] ⟨.relative, [fileName]⟩ = .ok ⟨#[0xff]⟩ ∧
      load (onlyFile ⟨#[0xff]⟩) [] ⟨.relative, [fileName]⟩ = .error (.encoding ⟨.start, 0, 1, 0xff⟩) ∧
        (LoadFault.encoding ⟨.start, 0, 1, 0xff⟩).isConfigError = false := by
  have hinvalid : ¬ ByteArray.IsValidUTF8 ⟨#[0xff]⟩ := by decide
  have hbytes : ByteArray.toList ⟨#[0xff]⟩ = [0xff] := by cbv
  have hfault : Utf8.firstFault 0 [0xff] = some ⟨.start, 0, 1, 0xff⟩ := by
    rw [Utf8.firstFault]
    rfl
  refine ⟨read_onlyFile _, ?_, rfl⟩
  rw [load_of_read (read_onlyFile _), ofBytes, Utf8.decode, String.fromUTF8?,
    dif_neg hinvalid, hbytes, hfault]
  rfl

end ApiScaffold.Config
