import ApiScaffold.Proofs.Json.Parse
import ApiScaffold.Proofs.Text.Utf8

namespace ApiScaffold.Json

variable {value : Data}

lemma Legible.notMem_dump (h : Legible value) : '\r' ∉ (dump value).toList := by
  rw [dump, String.toList_ofList, List.mem_append, not_or]
  exact ⟨h.notMem_print 0, by decide⟩

lemma Legible.unifyLines_dump (h : Legible value) :
    Utf8.unifyLines (dump value).toList = (dump value).toList :=
  Utf8.unifyLines_of_notMem h.notMem_dump

/--
A printed value is read back as it was, with its keys in their order, and no line end changes on the
way.
-/
theorem read_back_dump (h : Legible value) :
    parse (dump value).toList = .ok value ∧ '\r' ∉ (dump value).toList ∧
    ∃ text, Utf8.decode (dump value).toUTF8 = .ok text ∧ Utf8.unifyLines text.toList = (dump value).toList ∧
      parse (Utf8.unifyLines text.toList) = .ok value := by
  have hparse : parse (dump value).toList = .ok value := parse_dump h
  refine ⟨hparse, h.notMem_dump, dump value, Utf8.decode_toUTF8 _, h.unifyLines_dump, ?_⟩
  rw [h.unifyLines_dump]
  exact hparse

theorem read_back_dump_nested :
    let value : Data :=
      .map [("b\"\\\r\n", .list [.int (-120), .list [], .null]), ("a", .map [("", .string "\u007f\u2028/"),
      ("A", .map [])]), ("c", .bool false)]
    Legible value ∧ parse (dump value).toList = .ok value := by
  intro value
  have hitems : Legible (.list [.int (-120), .list [], .null]) := by
    refine .list ?_
    simp only [List.forall_mem_cons]
    exact ⟨.int (by decide), .list nofun, .null, nofun⟩
  have hentries : Legible (.map [("", .string "\u007f\u2028/"), ("A", .map [])]) := by
    refine .map ?_ (by decide)
    simp only [List.forall_mem_cons]
    exact ⟨.string _, .map nofun (by decide), nofun⟩
  have hvalue : Legible value := by
    refine .map ?_ (by decide)
    simp only [List.forall_mem_cons]
    exact ⟨hitems, hentries, .bool false, nofun⟩
  exact ⟨hvalue, (read_back_dump hvalue).1⟩

end ApiScaffold.Json
