import ApiScaffold.Proofs.FileTree.Name
import ApiScaffold.Proofs.Text.Case

/-!
The places of generated files: some are fixed, others are named for a token or stand in the directory of
one. Tokens that are names lead to tidy places, and only a token of several segments can lead elsewhere.
-/

namespace ApiScaffold

open ApiScaffold.Path Text

structure Frame where
  stem : String
  ending : String
  deriving DecidableEq

namespace Frame

def file (f : Frame) (token : String) : String := f.stem ++ capitalize token ++ f.ending

structure Sound (f : Frame) : Prop where
  stem_slash : '/' ∉ f.stem.toList
  stem_dot : '.' ∉ f.stem.toList
  ending_slash : '/' ∉ f.ending.toList
  ending_length : 2 < f.ending.toList.length
  ending_dots : ∃ c ∈ f.ending.toList, c ≠ '.'

instance (f : Frame) : Decidable f.Sound :=
  -- decided along the text, not over all characters
  have : Decidable (∃ c ∈ f.ending.toList, c ≠ '.') := List.decidableBEx _ _
  decidable_of_iff ('/' ∉ f.stem.toList ∧ '.' ∉ f.stem.toList ∧ '/' ∉ f.ending.toList ∧
    2 < f.ending.toList.length ∧
    ∃ c ∈ f.ending.toList, c ≠ '.')
      ⟨fun ⟨a, b, c, d, e⟩ => ⟨a, b, c, d, e⟩, fun ⟨a, b, c, d, e⟩ => ⟨a, b, c, d, e⟩⟩

variable {f : Frame} {token : String}

lemma notMem_file {c : Char} (hc : c.toNat < 65) (hstem : c ∉ f.stem.toList) (hending : c ∉ f.ending.toList)
    (h : c ∉ token.toList) : c ∉ (f.file token).toList := by
  have hcapitalized : c ∉ (capitalize token).toList := fun hmem => h (mem_capitalize hc hmem)
  simp [file, hstem, hending, hcapitalized]

lemma isName_file (hf : f.Sound) (h : '/' ∉ token.toList) : IsName (f.file token) := by
  refine isName_of_length ?_ (notMem_file (by decide) hf.stem_slash hf.ending_slash h)
  have := hf.ending_length
  simp only [file, String.toList_append, List.length_append]
  omega

lemma mem_parts_up {s : String} : ".." ∈ parts s ↔ ['.', '.'] ∈ splitAt '/' s.toList := by
  rw [parts, List.mem_map]
  constructor
  · rintro ⟨part, hpart, heq⟩
    have hdots : part = ['.', '.'] := by rw [← String.toList_ofList (l := part), heq]; rfl
    rwa [hdots] at hpart
  · exact fun h => ⟨_, h, rfl⟩

lemma mem_parts_of_capitalize (h : ".." ∈ parts (capitalize token)) : ".." ∈ parts token := by
  rw [mem_parts_up] at h ⊢
  cases htoken : token.toList with
  | nil => simpa [capitalize, htoken] using h
  | cons c rest =>
    rw [toList_capitalize_of_toList_eq_cons htoken] at h
    by_cases hc : c = '/'
    · subst hc
      exact h
    · have hupper : '/' ∉ upper c := fun hmem => hc (mem_upper (by decide) hmem).symm
      obtain ⟨first, others, hrest, hsplit⟩ := exists_splitAt_append hupper rest
      have hsplit' : splitAt '/' (c :: rest) = (c :: first) :: others := by rw [splitAt, if_neg hc, hrest]
      rw [hsplit, List.mem_cons] at h
      rw [hsplit', List.mem_cons]
      refine h.imp_left fun hup => ?_
      obtain ⟨x, xs, hx⟩ := List.exists_cons_of_ne_nil (upper_ne_nil c)
      have hdot : x = '.' := by
        rw [hx, List.cons_append, List.cons.injEq] at hup
        exact hup.1.symm
      have hmem : '.' ∈ upper c := by simp [hx, hdot]
      obtain rfl : '.' = c := mem_upper (by decide) hmem
      exact hup

lemma notMem_parts_file (hf : f.Sound) (h : ".." ∉ parts token) : ".." ∉ parts (f.file token) := by
  rw [mem_parts_up, file, String.toList_append, String.toList_append]
  obtain ⟨before, last, hbefore, hfile⟩ :=
    exists_splitAt_append_right (f.stem.toList ++ (capitalize token).toList) hf.ending_slash
  obtain ⟨first, others, hcapitalized, hstem⟩ := exists_splitAt_append hf.stem_slash (capitalize token).toList
  rw [hfile, List.mem_append, List.mem_singleton, not_or]
  constructor
  · intro hup
    have hmem : ['.', '.'] ∈ (f.stem.toList ++ first) :: others := by
      rw [← hstem, hbefore]
      exact List.mem_append_left _ hup
    refine h (mem_parts_of_capitalize (mem_parts_up.mpr ?_))
    rw [hcapitalized, List.mem_cons]
    refine (List.mem_cons.mp hmem).imp_left fun hfirst => ?_
    cases hs : f.stem.toList with
    | nil => rwa [hs] at hfirst
    | cons c stem =>
      have hdot := hf.stem_dot
      rw [hs, List.cons_append, List.cons.injEq] at hfirst
      rw [hs, ← hfirst.1] at hdot
      exact absurd List.mem_cons_self hdot
  · intro hup
    obtain ⟨c, hc, hne⟩ := hf.ending_dots
    have hmem : c ∈ ['.', '.'] := hup ▸ List.mem_append_right last hc
    simp [hne] at hmem

end Frame

def fixedPlaces : List String := [
  "package.json", "tsconfig.json", "src/index.ts", "src/domain/errors/DomainError.ts", "src/ports/index.ts",
  "src/ports/pagination.ts", "src/ports/IServices.ts", "src/use-cases/index.ts", "openapi/openapi.yaml",
  "src/routes.ts", "graphql/schema.graphql", "src/middleware/auth.ts", "src/middleware/errorHandler.ts",
  "src/transformers/request.ts", "src/transformers/response.ts", "src/extensions/pagination.ts",
  "src/extensions/offline.ts"]

def namedPlaces : List (String × Frame) := [
  ("src/domain/models", ⟨"", ".ts"⟩), ("src/ports", ⟨"I", "Repository.ts"⟩),
  ("schemas", ⟨"", ".schema.json"⟩), ("src/controllers", ⟨"", "Controller.ts"⟩)]

def useCaseFrames : List Frame := [⟨"List", "s.ts"⟩, ⟨"Create", ".ts"⟩, ⟨"Get", ".ts"⟩]

inductive Place (tokens : List String) : String → Prop
  | fixed {path : String} : path ∈ fixedPlaces → Place tokens path
  | named {directory token : String} {f : Frame} : (directory, f) ∈ namedPlaces → token ∈ tokens →
      Place tokens (directory ++ "/" ++ f.file token)
  | index {token : String} : token ∈ tokens →
    Place tokens ("src/use-cases" ++ "/" ++ token ++ "/" ++ "index.ts")
  | useCase {token : String} {f : Frame} : f ∈ useCaseFrames → token ∈ tokens →
      Place tokens ("src/use-cases" ++ "/" ++ token ++ "/" ++ f.file token)

lemma tidy_of_mem_fixedPlaces : ∀ path ∈ fixedPlaces, Tidy path := by
  decide +kernel

lemma namedPlaces_sound : ∀ place ∈ namedPlaces, Tidy place.1 ∧ place.2.Sound := by
  decide +kernel

lemma useCaseFrames_sound : ∀ f ∈ useCaseFrames, f.Sound := by
  decide

namespace Place

variable {tokens : List String} {path : String}

lemma tidy (h : Place tokens path) (htokens : ∀ token ∈ tokens, IsName token) : Tidy path := by
  have hfile {f : Frame} (hf : f.Sound) {token : String} (htoken : token ∈ tokens) : Tidy (f.file token) :=
    .of_isName (Frame.isName_file hf (htokens token htoken).2.2.2)
  cases h with
  | fixed hfixed => exact tidy_of_mem_fixedPlaces path hfixed
  | named hnamed htoken =>
    obtain ⟨hdirectory, hf⟩ := namedPlaces_sound _ hnamed
    exact hdirectory.append (hfile hf htoken)
  | index htoken =>
    have hdirectory : Tidy "src/use-cases" := by decide
    have hindex : Tidy "index.ts" := by decide
    exact (hdirectory.append (.of_isName (htokens _ htoken))).append hindex
  | useCase hf htoken =>
    have hdirectory : Tidy "src/use-cases" := by decide
    exact (hdirectory.append (.of_isName (htokens _ htoken))).append (hfile (useCaseFrames_sound _ hf) htoken)

lemma notMem_null (h : Place tokens path) (htokens : ∀ token ∈ tokens, '\x00' ∉ token.toList) :
    '\x00' ∉ path.toList := by
  have hfixed : ∀ path ∈ fixedPlaces, '\x00' ∉ path.toList := by decide +kernel
  have hnamed : ∀ place ∈ namedPlaces,
      '\x00' ∉ place.1.toList ∧ '\x00' ∉ place.2.stem.toList ∧ '\x00' ∉ place.2.ending.toList := by decide
  have huseCase : ∀ f ∈ useCaseFrames, '\x00' ∉ f.stem.toList ∧ '\x00' ∉ f.ending.toList := by decide
  cases h with
  | fixed hmem => exact hfixed path hmem
  | named hmem htoken =>
    obtain ⟨hdirectory, hstem, hending⟩ := hnamed _ hmem
    simp [hdirectory, Frame.notMem_file (by decide) hstem hending (htokens _ htoken)]
  | index htoken => simp [htokens _ htoken]
  | useCase hf htoken =>
    obtain ⟨hstem, hending⟩ := huseCase _ hf
    simp [htokens _ htoken, Frame.notMem_file (by decide) hstem hending (htokens _ htoken)]

lemma root (h : Place tokens path) : (ofString path).root = .relative := by
  have hdirectory : Tidy "src/use-cases" := by decide
  cases h with
  | fixed hfixed => exact (tidy_of_mem_fixedPlaces path hfixed).root
  | named hnamed htoken =>
    rw [String.append_assoc]
    exact (namedPlaces_sound _ hnamed).1.root_append _
  | index htoken =>
    rw [String.append_assoc, String.append_assoc, String.append_assoc]
    exact hdirectory.root_append _
  | useCase hf htoken =>
    rw [String.append_assoc, String.append_assoc, String.append_assoc]
    exact hdirectory.root_append _

lemma exists_descend_useCase {token file : String} (hfile : ".." ∉ parts file)
    (htoken : '/' ∈ token.toList → ".." ∉ (ofString token).segments) : ∃ names, names ≠ [] ∧ ∀ location,
      descend location (ofString ("src/use-cases" ++ "/" ++ token ++ "/" ++ file)).segments =
        location ++ names := by
  have hdirectory : (ofString "src/use-cases").segments = ["src", "use-cases"] := by decide
  rw [segments_append, segments_append, hdirectory]
  by_cases hup : ".." ∈ parts token
  · have hslash : '/' ∉ token.toList := fun hslash => htoken hslash (up_mem_segments.mpr hup)
    obtain rfl : ".." = token := by simpa [parts_of_notMem hslash] using hup
    refine ⟨"src" :: (ofString file).segments, List.cons_ne_nil _ _, fun location => ?_⟩
    have htwice : (ofString "..").segments = [".."] := by decide
    rw [htwice, descend_append, descend_segments hfile]
    simp [descend]
  · refine ⟨_, List.cons_ne_nil _ _, descend_of_notMem ?_⟩
    simp only [List.mem_append, up_mem_segments, not_or]
    exact ⟨⟨by decide, hup⟩, hfile⟩

lemma exists_descend (h : Place tokens path)
    (htokens : ∀ token ∈ tokens, '/' ∈ token.toList → ".." ∉ (ofString token).segments) :
    ∃ names, names ≠ [] ∧ ∀ location, descend location (ofString path).segments = location ++ names := by
  have hfile {f : Frame} (hf : f.Sound) {token : String} (htoken : token ∈ tokens) :
      ".." ∉ parts (f.file token) := by
    by_cases hslash : '/' ∈ token.toList
    · exact Frame.notMem_parts_file hf (mt up_mem_segments.mpr (htokens token htoken hslash))
    · exact (Tidy.of_isName (Frame.isName_file hf hslash)).notMem_parts
  cases h with
  | fixed hfixed =>
    have htidy := tidy_of_mem_fixedPlaces path hfixed
    exact ⟨_, htidy.segments_ne_nil, descend_segments htidy.notMem_parts⟩
  | named hnamed htoken =>
    obtain ⟨hdirectory, hf⟩ := namedPlaces_sound _ hnamed
    refine ⟨_, ?_, descend_segments ?_⟩
    · rw [segments_append]
      exact List.append_ne_nil_of_left_ne_nil hdirectory.segments_ne_nil _
    · rw [parts_append, List.mem_append, not_or]
      exact ⟨hdirectory.notMem_parts, hfile hf htoken⟩
  | index htoken => exact exists_descend_useCase (by decide) (htokens _ htoken)
  | useCase hf htoken =>
    exact exists_descend_useCase (hfile (useCaseFrames_sound _ hf) htoken) (htokens _ htoken)

end Place

end ApiScaffold
