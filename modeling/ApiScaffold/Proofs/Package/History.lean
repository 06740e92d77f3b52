import ApiScaffold.Json.Printer
import ApiScaffold.Package.Artifact
import ApiScaffold.Proofs.Assoc

namespace ApiScaffold.ArtifactSet

inductive Request where
  | add (path content : String)
  | addData (path : String) (data : Data)
  | get (path : String)
  | contains (key : Data)
  | list
  | size

inductive Reply where
  | added (file : Artifact)
  | refused (e : DuplicatePath)
  | content (text : String)
  | missing (e : Data.MissingKey)
  | member (found : Bool)
  | files (artifacts : List Artifact)
  | count (n : Nat)

def offer (s : ArtifactSet) (path content : String) : ArtifactSet × Reply :=
  match s.add path content with
  | .ok next => (next, .added ⟨path, content⟩)
  | .error e => (s, .refused e)

def found (s : ArtifactSet) (path : String) : Reply :=
  match s.get path with
  | .ok text => .content text
  | .error e => .missing e

def holds (s : ArtifactSet) : Data → Bool
  | .string path => s.contains path
  | _ => false

def answer (s : ArtifactSet) : Request → ArtifactSet × Reply
  | .add path content => s.offer path content
  | .addData path data => s.offer path (Json.dump data)
  | .get path => (s, s.found path)
  | .contains key => (s, .member (s.holds key))
  | .list => (s, .files s.artifacts)
  | .size => (s, .count s.size)

def answerAll (s : ArtifactSet) : List Request → ArtifactSet × List Reply
  | [] => (s, [])
  | request :: rest =>
    let (next, reply) := s.answer request
    let (last, replies) := next.answerAll rest
    (last, reply :: replies)

def Reply.added? : Reply → Option Artifact
  | .added file => some file
  | _ => none

/-- What a set owes to the files that were added to it, in their order. -/
structure Records (package : String) (added : List Artifact) (s : ArtifactSet) : Prop where
  package_eq : s.package = package
  artifacts_eq : s.artifacts = added
  distinct : (added.map Artifact.path).Nodup

variable {package path content : String} {added : List Artifact} {s : ArtifactSet}

lemma added?_found (s : ArtifactSet) (path : String) : (s.found path).added? = none := by
  unfold found
  split <;> rfl

lemma found_eq_missing_iff : s.found path = .missing ⟨path⟩ ↔ ¬ s.contains path := by
  have hcontains : s.contains path ↔ (s.artifacts.find? (·.path == path)).isSome := by
    rw [List.find?_isSome, contains, List.any_eq_true]
  rw [hcontains, found, get]
  cases s.artifacts.find? (·.path == path) <;> simp

namespace Records

lemma fresh (package : String) : Records package [] (empty package) := ⟨rfl, rfl, List.nodup_nil⟩

lemma contains_iff (h : Records package added s) : s.contains path ↔ path ∈ added.map Artifact.path := by
  rw [ArtifactSet.contains_iff, paths, h.artifacts_eq]

lemma holds_iff (h : Records package added s) {key : Data} :
    s.holds key ↔ ∃ file ∈ added, key = .string file.path := by
  cases key with
  | string path =>
    simp only [holds, h.contains_iff, List.mem_map, Data.string.injEq, eq_comm]
  | _ => simp [holds]

lemma found_eq_content_iff (h : Records package added s) :
    s.found path = .content content ↔ ⟨path, content⟩ ∈ added := by
  rw [found, get, h.artifacts_eq]
  constructor
  · intro hfound
    split at hfound
    · rename_i text hget
      cases hfound
      split at hget
      · rename_i file hfile
        cases hget
        have hpath : file.path = path := by simpa using List.find?_some hfile
        exact hpath ▸ List.mem_of_find?_eq_some hfile
      · cases hget
    · cases hfound
  · intro hmem
    have hfind : added.find? (·.path == path) = some ⟨path, content⟩ := by
      simpa [beq_eq_decide] using Assoc.find?_key h.distinct hmem
    rw [hfind]

lemma offer_eq (h : Records package added s) (path content : String) :
    s.offer path content = if path ∈ added.map Artifact.path then (s, .refused ⟨package, path⟩)
      else (⟨package, added ++ [⟨path, content⟩]⟩, .added ⟨path, content⟩) := by
  rw [offer, add]
  by_cases hcontains : s.contains path
  · rw [if_pos hcontains, if_pos (h.contains_iff.mp hcontains), h.package_eq]
  · rw [if_neg hcontains, if_neg (mt h.contains_iff.mpr hcontains), h.package_eq, h.artifacts_eq]

lemma offer (h : Records package added s) (path content : String) :
    Records package (added ++ (s.offer path content).2.added?.toList) (s.offer path content).1 := by
  rw [h.offer_eq]
  split
  · simpa [Reply.added?] using h
  · rename_i hnew
    refine ⟨rfl, rfl, ?_⟩
    simpa [Reply.added?] using h.distinct.concat hnew

lemma answer (h : Records package added s) (request : Request) :
    Records package (added ++ (s.answer request).2.added?.toList) (s.answer request).1 := by
  cases request with
  | add path content => exact h.offer path content
  | addData path data => exact h.offer path (Json.dump data)
  | get path =>
    simp only [ArtifactSet.answer, added?_found]
    simpa using h
  | contains | list | size => simpa [ArtifactSet.answer, Reply.added?] using h

lemma answerAll (h : Records package added s) (requests : List Request) :
    Records package (added ++ (s.answerAll requests).2.filterMap Reply.added?) (s.answerAll requests).1 := by
  induction requests generalizing added s with
  | nil => simpa [ArtifactSet.answerAll] using h
  | cons request rest ih =>
    have hlast := ih (h.answer request)
    rw [List.append_assoc] at hlast
    rw [ArtifactSet.answerAll]
    cases hadded : (s.answer request).2.added? <;> simpa [hadded] using hlast

end Records

/--
Whatever was asked of a fresh set, it holds the files whose addition was confirmed, in this order and none of
them twice, and tells them when it is asked again. A path that is there is refused, and nothing changes.
-/
theorem answers_record_additions (package : String) (requests : List Request) :
    let s := ((empty package).answerAll requests).1
    let added := ((empty package).answerAll requests).2.filterMap Reply.added?
    s = ⟨package, added⟩ ∧ (added.map Artifact.path).Nodup ∧
    s.answer .list = (s, .files added) ∧ s.answer .size = (s, .count added.length) ∧
    (∀ key, s.answer (.contains key) = (s, .member true) ↔ ∃ file ∈ added, key = .string file.path) ∧
    (∀ key, s.answer (.contains key) = (s, .member false) ↔ ∀ file ∈ added, key ≠ .string file.path) ∧
    (∀ path content, s.answer (.get path) = (s, .content content) ↔ ⟨path, content⟩ ∈ added) ∧
    (∀ path, s.answer (.get path) = (s, .missing ⟨path⟩) ↔
      s.answer (.contains (.string path)) = (s, .member false)) ∧
    (∀ path content, s.answer (.add path content) =
      if path ∈ added.map Artifact.path then (s, .refused ⟨package, path⟩)
      else (⟨package, added ++ [⟨path, content⟩]⟩, .added ⟨path, content⟩)) ∧
    ∀ path data, s.answer (.addData path data) = s.answer (.add path (Json.dump data)) := by
  intro s added
  have h : Records package added s := (Records.fresh package).answerAll requests
  have hs : s = ⟨package, added⟩ := by
    rw [← h.package_eq, ← h.artifacts_eq]
  have hsize : s.size = added.length := by rw [size, h.artifacts_eq]
  have hmember (key : Data) (b : Bool) : s.answer (.contains key) = (s, .member b) ↔ s.holds key = b := by
    simp [answer]
  refine ⟨hs, h.distinct, ?_, ?_, fun key => ?_, fun key => ?_, fun path content => ?_, fun path => ?_,
    h.offer_eq, fun _ _ => rfl⟩
  · rw [answer, h.artifacts_eq]
  · rw [answer, hsize]
  · rw [hmember, h.holds_iff]
  · rw [hmember, ← Bool.not_eq_true, h.holds_iff]
    simp
  · simpa [answer] using h.found_eq_content_iff
  · rw [hmember, holds, ← Bool.not_eq_true, ← found_eq_missing_iff]
    simp [answer]

example :
    ((empty "core").answerAll [.add "a.ts" "x", .add "a.ts" "y", .get "a.ts", .size]).2 =
      [.added ⟨"a.ts", "x"⟩, .refused ⟨"core", "a.ts"⟩, .content "x", .count 1] := rfl

end ApiScaffold.ArtifactSet
