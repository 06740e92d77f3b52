import ApiScaffold.Proofs.Package.Draft
import ApiScaffold.Proofs.Package.Shape
import ApiScaffold.Proofs.Template.Hole

namespace ApiScaffold

open Template Chain

def BuildFault.inPackage (package : String) : BuildFault → BuildFault
  | .duplicate e => .duplicate ⟨package, e.path⟩
  | .template fault => .template fault

structure Sketch (μ : Type) where
  path : String
  content : Except Fault (List (Piece μ))

namespace Sketch

variable {μ : Type}

def ofDraft (d : Draft) : Sketch μ := ⟨d.path, (fun text => [.text text]) <$> d.content⟩

def ofTemplate (marks : List (String × μ)) (path : String) (template : Template)
    (context : List (String × Data)) : Sketch μ :=
  ⟨path, sketch marks (.ofContext context) template⟩

def draft (value : μ → String) (k : Sketch μ) : Draft := ⟨k.path, fill value <$> k.content⟩

variable {value other : μ → String} {k : Sketch μ} {sketches : List (Sketch μ)} {package : String}

lemma draft_ofDraft (value : μ → String) (d : Draft) : (ofDraft d).draft value = d := by
  obtain ⟨path, content⟩ := d
  cases content <;> simp [ofDraft, draft, Functor.map, Except.map, fill, Piece.fill]

lemma content_draft {pieces : List (Piece μ)} (h : k.content = .ok pieces) :
    (k.draft value).content = .ok (fill value pieces) := by
  rw [draft, h]
  rfl

lemma rendered_draft : (k.draft value).Rendered ↔ ∃ pieces, k.content = .ok pieces := by
  rw [Draft.Rendered, draft]
  cases k.content <;> simp [Functor.map, Except.map]

lemma paths_drafts (value : μ → String) (sketches : List (Sketch μ)) :
    (sketches.map (draft value)).map Draft.path = sketches.map path := by
  rw [List.map_map]
  rfl

lemma fails_draft {earlier : List String} {fault : BuildFault}
    (h : (k.draft value).Fails package earlier fault)
    (next : String) : (k.draft other).Fails next earlier (fault.inPackage next) := by
  cases h with
  | template hcontent =>
    refine .template ?_
    revert hcontent
    rw [draft, draft]
    cases k.content with
    | ok pieces => nofun
    | error fault => exact id
  | duplicate hrendered hmem => exact .duplicate (rendered_draft.mpr (rendered_draft.mp hrendered)) hmem

lemma ofDrafts_eq_error {fault : BuildFault}
    (h : ArtifactSet.ofDrafts package (sketches.map (draft value)) = .error fault)
    (next : String) : ArtifactSet.ofDrafts next (sketches.map (draft other)) =
      .error (fault.inPackage next) := by
  obtain ⟨pre, d, post, hdrafts, hpre, hn, hd⟩ := ArtifactSet.ofDrafts_eq_error_iff.mp h
  obtain ⟨before, rest, rfl, rfl, hrest⟩ := List.map_eq_append_iff.mp hdrafts
  obtain ⟨k, after, rfl, rfl, rfl⟩ := List.map_eq_cons_iff.mp hrest
  rw [paths_drafts] at hn hd
  refine ArtifactSet.ofDrafts_eq_error_iff.mpr
    ⟨before.map (draft other), k.draft other, after.map (draft other), by simp, ?_, ?_, ?_⟩
  · rintro _ hmem
    obtain ⟨x, hx, rfl⟩ := List.mem_map.mp hmem
    exact rendered_draft.mpr (rendered_draft.mp (hpre _ (List.mem_map_of_mem hx)))
  · rwa [paths_drafts]
  · rw [paths_drafts]
    exact fails_draft hd next

lemma ofDrafts_eq_ok (hrendered : ∀ d ∈ sketches.map (draft value), d.Rendered)
    (hn : (sketches.map path).Nodup)
    (other : μ → String) (next : String) : ArtifactSet.ofDrafts next (sketches.map (draft other)) =
      .ok ⟨next, (sketches.map (draft other)).map Draft.artifact⟩ := by
  refine ArtifactSet.ofDrafts_eq_ok ?_ (by rwa [paths_drafts])
  rintro _ hmem
  obtain ⟨x, hx, rfl⟩ := List.mem_map.mp hmem
  exact rendered_draft.mpr (rendered_draft.mp (hrendered _ (List.mem_map_of_mem hx)))

def pieces (sketches : List (Sketch μ)) (path : String) : List (Piece μ) :=
  ((sketches.find? (·.path = path)).bind (·.content.toOption)).getD []

lemma get_drafts (hrendered : ∀ d ∈ sketches.map (draft value), d.Rendered) (hn : (sketches.map path).Nodup)
    (hk : k ∈ sketches) (package : String) :
    ArtifactSet.get ⟨package, (sketches.map (draft value)).map Draft.artifact⟩ k.path =
      .ok (fill value (pieces sketches k.path)) := by
  obtain ⟨found, hfound⟩ := rendered_draft.mp (hrendered _ (List.mem_map_of_mem hk))
  have hpieces : pieces sketches k.path = found := by
    rw [pieces, Assoc.find?_key hn hk, Option.bind_some, hfound]
    rfl
  have hcontent : (k.draft value).artifact.content = fill value found := by
    rw [Draft.artifact, content_draft hfound]
    rfl
  rw [hpieces, ← hcontent]
  exact ArtifactSet.get_ofDrafts (by rwa [paths_drafts]) (List.mem_map_of_mem hk) package

lemma fill_pieces_ofDraft {d : Draft} (hn : (sketches.map path).Nodup) (hd : ofDraft d ∈ sketches) :
    fill value (pieces sketches d.path) = fill other (pieces sketches d.path) := by
  have hfind : sketches.find? (·.path = d.path) = some (ofDraft d) := Assoc.find?_key hn hd
  rw [pieces, hfind, Option.bind_some, ofDraft]
  cases d.content <;> rfl

lemma get_of_notMem {s : ArtifactSet} {path : String} (h : path ∉ s.paths) : s.get path = .error ⟨path⟩ := by
  have hnone : s.artifacts.find? (·.path == path) = none :=
    List.find?_eq_none.mpr fun a ha heq => h (eq_of_beq heq ▸ List.mem_map_of_mem ha)
  rw [ArtifactSet.get, hnone]

end Sketch

end ApiScaffold
