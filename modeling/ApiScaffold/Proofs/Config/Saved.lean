import ApiScaffold.Config.File
import ApiScaffold.Proofs.FileTree.Path
import ApiScaffold.Proofs.FileTree.Write
import ApiScaffold.Proofs.Json.RoundTrip
import Mathlib

namespace ApiScaffold.Config

open Chain Json

variable {c : Config}

lemma legible_toData (c : Config) : Legible c.toData := by
  have hstrings (items : List String) : Legible (.strings items) := by
    refine .list fun v hv => ?_
    obtain ⟨s, -, rfl⟩ := List.mem_map.mp hv
    exact .string s
  refine .map ?_ (by simp)
  simp only [List.forall_mem_cons]
  refine ⟨.string _, .string _, hstrings _, hstrings _, .map ?_ (by simp), nofun⟩
  simp only [List.forall_mem_cons]
  exact ⟨.string _, .string _, nofun⟩

lemma checkItems_strings (field : String) (index : Nat) (items : List String) :
    checkItems field index (items.map .string) = .ok items := by
  induction items generalizing index with
  | nil => rfl
  | cons s rest ih => rw [List.map_cons, checkItems, ih, checkString]

lemma checkFormat_name (field : String) (format : ContractFormat) :
    checkFormat field (.string format.name) = .ok format := by
  cases format <;> rfl

lemma ofEntries_toData (h : c.outputDir.Normal) {entries : List (String × Data)}
    (hc : c.toData = .map entries) :
    ofEntries entries = .ok c := by
  cases hc
  have hpath : checkPath "output_dir" (.string c.outputDir.text) = .ok c.outputDir := by
    rw [checkPath, Path.ofString_text h]
  have hstrings (field : String) (items : List String) : checkStrings field (.strings items) = .ok items :=
    checkItems_strings field 0 items
  simp [ofEntries, Assoc.get?, contractsEntries, contractsOf, orDefault, checkFormat_name, checkString,
    hpath, hstrings]

lemma normal_of_orDefault {directory : Option Data} {p : Path}
    (h : orDefault (checkPath "output_dir") default.outputDir directory = .ok p) : p.Normal := by
  cases directory with
  | none =>
    cases h
    exact Path.normal_ofString "packages"
  | some v =>
    cases v with
    | string s =>
      cases h
      exact Path.normal_ofString s
    | _ => cases h

lemma normal_of_ofEntries {entries : List (String × Data)} (h : ofEntries entries = .ok c) :
    c.outputDir.Normal := by
  obtain ⟨contracts, -, h⟩ := bind_eq_ok.mp h
  obtain ⟨⟨format, version⟩, -, h⟩ := bind_eq_ok.mp h
  dsimp only at h
  split at h
  · rename_i hdirectory
    cases h
    exact normal_of_orDefault hdirectory
  · cases h

lemma ofBytes_toText (h : c.outputDir.Normal) (path : Path) : ofBytes path c.toText.toUTF8 = .ok c := by
  have hlines : Utf8.unifyLines c.toText.toList = c.toText.toList := (legible_toData c).unifyLines_dump
  have hparse : parse c.toText.toList = .ok c.toData := parse_dump (legible_toData c)
  have hentries := ofEntries_toData h rfl
  rw [ofBytes, Utf8.decode_toUTF8]
  simp only [Except.mapError, ok_bind, hlines, hparse]
  rw [toData]
  simp only [hentries]

lemma exists_write_of_save {tree : FileTree} {cwd : Location} {path : Path}
    (h : (save tree cwd path c).fault = none) :
    ∃ before, FileTree.write before cwd path c.toText = .ok (save tree cwd path c).tree := by
  have hsave : save tree cwd path c = (tree.apply cwd (.directory path.parent)).andThen fun made =>
      (FileTree.settle made (made.write cwd path c.toText)).andThen fun tree => ⟨tree, none⟩ := rfl
  rw [hsave] at h ⊢
  obtain ⟨-, hmade⟩ := FileTree.andThen_of_fault_eq_none h
  rw [hmade] at h ⊢
  obtain ⟨hfault, hwritten⟩ := FileTree.andThen_of_fault_eq_none h
  rw [hwritten]
  exact ⟨_, FileTree.settle_of_fault_eq_none hfault⟩

/-- Where saving succeeds, loading gives the configuration back. -/
theorem load_save {entries : List (String × Data)} (hc : ofEntries entries = .ok c) (tree : FileTree)
    (cwd : Location) (path : Path) (hs : (save tree cwd path c).fault = none) :
    load (save tree cwd path c).tree cwd path = .ok c := by
  obtain ⟨before, hwrite⟩ := exists_write_of_save hs
  rw [load, FileTree.exists?_write hwrite, FileTree.read_write hwrite]
  simp only [Except.mapError, ok_bind, if_true]
  exact ofBytes_toText (normal_of_ofEntries hc) path

lemma fault_applyAll_empty (content : String) : (FileTree.empty.applyAll [] [
    .directory ⟨.relative, ["conf"]⟩, .file ⟨.relative, ["conf", fileName]⟩ content]).fault = none := by
  cbv

theorem load_save_quotes :
    let c : Config := ⟨["a\"b\r\n"], [], .graphql, "3.1.0", ⟨.double, ["x", "y"]⟩⟩
    let path : Path := ⟨.relative, ["conf", fileName]⟩
    ofEntries [("domains", .strings ["a\"b\r\n"]), ("adapters", .list []),
      ("contracts", .map [("format", .string "graphql")]), ("outputDir", .string "//x/./y/")] = .ok c ∧
    (save FileTree.empty [] path c).fault = none ∧
    load (save FileTree.empty [] path c).tree [] path = .ok c := by
  intro c path
  have hc : ofEntries [("domains", .strings ["a\"b\r\n"]), ("adapters", .list []),
      ("contracts", .map [("format", .string "graphql")]), ("outputDir", .string "//x/./y/")] = .ok c := rfl
  have hs : (save FileTree.empty [] path c).fault = none := fault_applyAll_empty c.toText
  exact ⟨hc, hs, load_save hc FileTree.empty [] path hs⟩

end ApiScaffold.Config
