import ApiScaffold.Package.Artifact
import ApiScaffold.Proofs.Except
import Mathlib.Data.List.Induction
import Mathlib.Data.List.Nodup

namespace ApiScaffold

open Chain

namespace Draft

def Rendered (d : Draft) : Prop := ∃ content, d.content = .ok content

lemma rendered_text (path content : String) : (text path content).Rendered := ⟨content, rfl⟩

lemma path_text (path content : String) : (text path content).path = path := rfl

lemma path_ofTemplate (path : String) (template : Template) (context : List (String × Data)) :
    (ofTemplate path template context).path = path := rfl

def artifact (d : Draft) : Artifact := ⟨d.path, d.content.toOption.getD ""⟩

lemma content_of_rendered {d : Draft} (h : d.Rendered) : d.content = .ok d.artifact.content := by
  obtain ⟨content, hd⟩ := h
  rw [artifact, hd]
  rfl

lemma find?_artifact {drafts : List Draft} (hn : (drafts.map path).Nodup) {d : Draft} (hd : d ∈ drafts) :
    (drafts.map artifact).find? (·.path == d.path) = some d.artifact := by
  induction drafts with
  | nil => cases hd
  | cons e rest ih =>
    obtain ⟨he, hrest⟩ := List.nodup_cons.mp hn
    rw [List.map_cons, List.find?_cons]
    rcases List.mem_cons.mp hd with rfl | hd
    · simp [artifact]
    · have hne : (e.artifact.path == d.path) = false :=
        beq_eq_false_iff_ne.mpr fun hpath => he (List.mem_map.mpr ⟨d, hd, hpath.symm⟩)
      rw [hne]
      exact ih hrest hd

inductive Fails (package : String) (earlier : List String) (d : Draft) : BuildFault → Prop
  | template {fault : Template.Fault} : d.content = .error fault → Fails package earlier d (.template fault)
  | duplicate : d.Rendered → d.path ∈ earlier → Fails package earlier d (.duplicate ⟨package, d.path⟩)

end Draft

namespace ArtifactSet

variable {package : String} {s : ArtifactSet} {d : Draft}

lemma addDraft_of_notMem {content : String} (hd : d.content = .ok content) (h : d.path ∉ s.paths) :
    s.addDraft d = .ok ⟨s.package, s.artifacts ++ [⟨d.path, content⟩]⟩ := by
  have hadd : s.add d.path content = .ok ⟨s.package, s.artifacts ++ [⟨d.path, content⟩]⟩ := by
    rw [add, if_neg (by rwa [contains_iff])]
  simp [addDraft, hd, hadd, Except.mapError]

lemma addDraft_of_mem {content : String} (hd : d.content = .ok content) (h : d.path ∈ s.paths) :
    s.addDraft d = .error (.duplicate ⟨s.package, d.path⟩) := by
  have hadd : s.add d.path content = .error ⟨s.package, d.path⟩ := by
    rw [add, if_pos (contains_iff.mpr h)]
  simp [addDraft, hd, hadd, Except.mapError]

lemma addDraft_eq_error_iff {fault : BuildFault} :
    s.addDraft d = .error fault ↔ d.Fails s.package s.paths fault := by
  cases hd : d.content with
  | error f =>
    constructor
    · intro h
      simp only [addDraft, hd, Except.mapError, error_bind, Except.error.injEq] at h
      exact h ▸ .template hd
    · rintro (hf | ⟨⟨content, hc⟩, -⟩)
      · simp [addDraft, hf, Except.mapError]
      · simp [hd] at hc
  | ok content =>
    by_cases hmem : d.path ∈ s.paths
    · rw [addDraft_of_mem hd hmem]
      constructor
      · rintro ⟨⟩
        exact .duplicate ⟨content, hd⟩ hmem
      · rintro (hf | -)
        · simp [hd] at hf
        · rfl
    · rw [addDraft_of_notMem hd hmem]
      constructor
      · rintro ⟨⟩
      · rintro (hf | ⟨-, h⟩)
        · simp [hd] at hf
        · exact absurd h hmem

lemma exists_of_addDraft_eq_ok {next : ArtifactSet} (h : s.addDraft d = .ok next) :
    ∃ content, d.content = .ok content ∧ d.path ∉ s.paths ∧
    next = ⟨s.package, s.artifacts ++ [⟨d.path, content⟩]⟩ := by
  cases hd : d.content with
  | error f => simp [addDraft, hd, Except.mapError] at h
  | ok content =>
    by_cases hmem : d.path ∈ s.paths
    · simp [addDraft_of_mem hd hmem] at h
    · rw [addDraft_of_notMem hd hmem] at h
      exact ⟨content, rfl, hmem, (Except.ok.inj h).symm⟩

lemma foldlM_addDraft {drafts : List Draft} (h : ∀ d ∈ drafts, d.Rendered)
    (hn : (s.paths ++ drafts.map Draft.path).Nodup) :
    drafts.foldlM addDraft s = .ok ⟨s.package, s.artifacts ++ drafts.map Draft.artifact⟩ := by
  induction drafts generalizing s with
  | nil => simp
  | cons d rest ih =>
    rw [List.map_cons, List.append_cons] at hn
    have hmem : d.path ∉ s.paths := by
      have := (List.nodup_append.mp hn).1
      exact fun hd => (List.nodup_append.mp this).2.2 _ hd _ (by simp) rfl
    have hcontent := Draft.content_of_rendered (h d List.mem_cons_self)
    rw [List.foldlM_cons, addDraft_of_notMem hcontent hmem, ok_bind,
      ih (fun e he => h e (List.mem_cons_of_mem d he)) (by simpa [paths] using hn)]
    simp [Draft.artifact]

lemma ofDrafts_eq_ok {drafts : List Draft} (h : ∀ d ∈ drafts, d.Rendered)
    (hn : (drafts.map Draft.path).Nodup) :
    ofDrafts package drafts = .ok ⟨package, drafts.map Draft.artifact⟩ := foldlM_addDraft h hn

lemma get_ofDrafts {drafts : List Draft} (hn : (drafts.map Draft.path).Nodup) (hd : d ∈ drafts)
    (package : String) :
    get ⟨package, drafts.map Draft.artifact⟩ d.path = .ok d.artifact.content := by
  simp only [get, Draft.find?_artifact hn hd]

lemma paths_ofDrafts (package : String) (drafts : List Draft) :
    paths ⟨package, drafts.map Draft.artifact⟩ = drafts.map Draft.path := by
  simp [paths, Function.comp_def, Draft.artifact]

lemma paths_of_foldlM_eq_ok {drafts : List Draft} {built : ArtifactSet}
    (h : drafts.foldlM addDraft s = .ok built) (hs : s.paths.Nodup) :
    built.package = s.package ∧ built.paths = s.paths ++ drafts.map Draft.path ∧ built.paths.Nodup := by
  induction drafts generalizing s with
  | nil =>
    cases h
    exact ⟨rfl, by simp, hs⟩
  | cons d rest ih =>
    rw [List.foldlM_cons] at h
    obtain ⟨next, hnext, h⟩ := bind_eq_ok.mp h
    obtain ⟨content, -, hmem, rfl⟩ := exists_of_addDraft_eq_ok hnext
    have hpaths : paths ⟨s.package, s.artifacts ++ [⟨d.path, content⟩]⟩ = s.paths ++ [d.path] := by
      simp [paths]
    obtain ⟨hpackage, hbuilt, hn⟩ := ih h (by simpa [hpaths] using hs.concat hmem)
    exact ⟨hpackage, by simpa [hpaths] using hbuilt, hn⟩

lemma paths_of_ofDrafts_eq_ok {drafts : List Draft} (h : ofDrafts package drafts = .ok s) :
    s.package = package ∧ s.paths = drafts.map Draft.path ∧ s.paths.Nodup :=
  paths_of_foldlM_eq_ok (s := empty package) h List.nodup_nil

lemma rendered_of_foldlM_eq_ok {drafts : List Draft} {built : ArtifactSet}
    (h : drafts.foldlM addDraft s = .ok built) :
    ∀ d ∈ drafts, d.Rendered := by
  induction drafts generalizing s with
  | nil => exact List.forall_mem_nil _
  | cons d rest ih =>
    rw [List.foldlM_cons] at h
    obtain ⟨next, hnext, h⟩ := bind_eq_ok.mp h
    obtain ⟨content, hcontent, -, -⟩ := exists_of_addDraft_eq_ok hnext
    exact List.forall_mem_cons.mpr ⟨⟨content, hcontent⟩, ih h⟩

lemma eq_of_ofDrafts_eq_ok {drafts : List Draft} (h : ofDrafts package drafts = .ok s) :
    (∀ d ∈ drafts, d.Rendered) ∧ (drafts.map Draft.path).Nodup ∧
    s = ⟨package, drafts.map Draft.artifact⟩ := by
  have hrendered := rendered_of_foldlM_eq_ok h
  obtain ⟨-, hpaths, hn⟩ := paths_of_ofDrafts_eq_ok h
  rw [hpaths] at hn
  rw [ofDrafts_eq_ok hrendered hn] at h
  exact ⟨hrendered, hn, (Except.ok.inj h).symm⟩

def Builds (result : Except BuildFault ArtifactSet) (expected : String × Nat) : Prop :=
  ∃ s, result = .ok s ∧ (s.package, s.size) = expected ∧ s.paths.Nodup

lemma builds_ofDrafts {drafts : List Draft} (h : ∀ d ∈ drafts, d.Rendered)
    (hn : (drafts.map Draft.path).Nodup) :
    Builds (ofDrafts package drafts) (package, drafts.length) := by
  refine ⟨_, ofDrafts_eq_ok h hn, ?_, ?_⟩
  · rw [size, List.length_map]
  · rwa [paths_ofDrafts]

lemma exists_of_foldlM_eq_error {drafts : List Draft} {fault : BuildFault} (hs : s.paths.Nodup)
    (h : drafts.foldlM addDraft s = .error fault) :
    ∃ pre d post, drafts = pre ++ d :: post ∧ (∀ x ∈ pre, x.Rendered) ∧
    (s.paths ++ pre.map Draft.path).Nodup ∧
      d.Fails s.package (s.paths ++ pre.map Draft.path) fault := by
  induction drafts generalizing s with
  | nil => cases h
  | cons d rest ih =>
    rw [List.foldlM_cons] at h
    cases hd : s.addDraft d with
    | error f =>
      rw [hd] at h
      cases h
      exact ⟨[], d, rest, rfl, by simp, by simpa using hs, by simpa using addDraft_eq_error_iff.mp hd⟩
    | ok next =>
      obtain ⟨content, hc, hmem, rfl⟩ := exists_of_addDraft_eq_ok hd
      rw [hd, ok_bind] at h
      have hnext : (paths ⟨s.package, s.artifacts ++ [⟨d.path, content⟩]⟩) = s.paths ++ [d.path] := by
        simp [paths]
      obtain ⟨pre, e, post, rfl, hpre, hn, he⟩ := ih (by simpa [hnext] using hs.concat hmem) h
      rw [hnext, ← List.append_cons] at hn he
      refine ⟨d :: pre, e, post, rfl, ?_, hn, he⟩
      intro x hx
      rcases List.mem_cons.mp hx with rfl | hx
      · exact ⟨content, hc⟩
      · exact hpre x hx

lemma ofDrafts_eq_error_iff {drafts : List Draft} {fault : BuildFault} :
    ofDrafts package drafts = .error fault ↔ ∃ pre d post, drafts = pre ++ d :: post ∧
    (∀ x ∈ pre, x.Rendered) ∧
      (pre.map Draft.path).Nodup ∧ d.Fails package (pre.map Draft.path) fault := by
  constructor
  · intro h
    simpa [empty, paths] using exists_of_foldlM_eq_error (s := empty package) List.nodup_nil h
  · rintro ⟨pre, d, post, rfl, hpre, hn, hd⟩
    have hs : ofDrafts package pre = _ := ofDrafts_eq_ok hpre hn
    rw [← paths_ofDrafts package] at hd
    rw [ofDrafts] at hs ⊢
    rw [List.foldlM_append, hs, ok_bind, List.foldlM_cons, addDraft_eq_error_iff.mpr hd]
    rfl

lemma exists_first_repeated {α β : Type} {f : α → β} {items : List α} (h : ¬ (items.map f).Nodup) :
    ∃ pre x post, items = pre ++ x :: post ∧ (pre.map f).Nodup ∧ f x ∈ pre.map f := by
  induction items using List.reverseRecOn with
  | nil => exact absurd List.nodup_nil h
  | append_singleton items x ih =>
    by_cases hn : (items.map f).Nodup
    · refine ⟨items, x, [], rfl, hn, ?_⟩
      by_contra hx
      exact h (by simpa using hn.concat hx)
    · obtain ⟨pre, y, post, rfl, hpre, hy⟩ := ih hn
      exact ⟨pre, y, post ++ [x], by simp, hpre, hy⟩

lemma exists_duplicate_of_rendered {drafts : List Draft} (h : ∀ d ∈ drafts, d.Rendered) {fault : BuildFault}
    (hfault : ofDrafts package drafts = .error fault) : ∃ e, fault = .duplicate e := by
  obtain ⟨pre, d, post, rfl, -, -, hd⟩ := ofDrafts_eq_error_iff.mp hfault
  cases hd with
  | template hcontent =>
    obtain ⟨content, hc⟩ := h d (by simp)
    rw [hc] at hcontent
    cases hcontent
  | duplicate => exact ⟨_, rfl⟩

lemma fault?_ofDrafts_eq_none_iff (package : String) {drafts : List Draft} (h : ∀ d ∈ drafts, d.Rendered) :
    fault? (ofDrafts package drafts) = none ↔ (drafts.map Draft.path).Nodup := by
  constructor
  · intro hnone
    by_contra hn
    obtain ⟨pre, d, post, hdrafts, hpre, hd⟩ := exists_first_repeated hn
    have hfault : ofDrafts package drafts = .error (.duplicate ⟨package, d.path⟩) :=
      ofDrafts_eq_error_iff.mpr ⟨pre, d, post, hdrafts, fun x hx => h x (by simp [hdrafts, hx]), hpre,
        .duplicate (h d (by simp [hdrafts])) hd⟩
    rw [hfault] at hnone
    cases hnone
  · intro hn
    rw [ofDrafts_eq_ok h hn]
    rfl

lemma ofDrafts_of_repeated {α : Type} {leading following : List Draft} {f : α → Draft}
    {pre post : List α} {x : α}
    (hrendered : ∀ d ∈ leading ++ (pre ++ x :: post).map f ++ following, d.Rendered)
    (hn : ((leading ++ pre.map f).map Draft.path).Nodup) (hx : ∃ y ∈ pre, (f y).path = (f x).path) :
    ofDrafts package (leading ++ (pre ++ x :: post).map f ++ following) =
      .error (.duplicate ⟨package, (f x).path⟩) := by
  obtain ⟨y, hy, hpath⟩ := hx
  refine ofDrafts_eq_error_iff.mpr ⟨leading ++ pre.map f, f x, post.map f ++ following, by simp, ?_, hn, ?_⟩
  · exact fun d hd => hrendered d (by simp only [List.map_append, List.mem_append] at hd ⊢; tauto)
  · refine .duplicate (hrendered _ (by simp)) (hpath ▸ ?_)
    exact List.mem_map_of_mem (List.mem_append_right _ (List.mem_map_of_mem hy))

lemma exists_of_append_of_notMem_left {α : Type} {xs ys before after : List α} {x : α}
    (h : xs ++ ys = before ++ x :: after) (hx : x ∉ xs) :
    ∃ mid, before = xs ++ mid ∧ ys = mid ++ x :: after := by
  rcases List.append_eq_append_iff.mp h with h | ⟨bs, rfl, hbs⟩
  · exact h
  · cases bs with
    | nil => exact ⟨[], by simp, by simpa using hbs.symm⟩
    | cons b bs =>
      simp only [List.cons_append, List.cons.injEq] at hbs
      exact absurd (by simp [hbs.1]) hx

lemma exists_of_append_of_notMem_right {α : Type} {xs ys before after : List α} {x : α}
    (h : xs ++ ys = before ++ x :: after) (hx : x ∉ ys) : ∃ mid, xs = before ++ x :: mid := by
  rcases List.append_eq_append_iff.mp h with ⟨as, -, has⟩ | ⟨bs, hxs, hbs⟩
  · exact absurd (by simp [has]) hx
  · cases bs with
    | nil => exact absurd (by simp [← show x :: after = ys by simpa using hbs]) hx
    | cons b bs =>
      simp only [List.cons_append, List.cons.injEq] at hbs
      exact ⟨bs, by rw [hxs, hbs.1]⟩

lemma fails_template_iff {earlier : List String} {fault : Template.Fault} :
    d.Fails package earlier (.template fault) ↔ d.content = .error fault := by
  constructor
  · rintro (h | -)
    exact h
  · exact .template

lemma ofDrafts_eq_template_iff {α : Type} {leading following : List Draft} {f : α → Draft} {items : List α}
    {fault : Template.Fault} (hleading : ∀ d ∈ leading, d.Rendered)
    (hfollowing : ∀ d ∈ following, d.Rendered) :
    ofDrafts package (leading ++ items.map f ++ following) = .error (.template fault) ↔
      ∃ pre x post, items = pre ++ x :: post ∧ (∀ y ∈ pre, (f y).Rendered) ∧
        ((leading ++ pre.map f).map Draft.path).Nodup ∧ (f x).content = .error fault := by
  rw [ofDrafts_eq_error_iff]
  constructor
  · rintro ⟨before, d, after, hdrafts, hbefore, hn, hd⟩
    have hcontent := fails_template_iff.mp hd
    have hnot : ¬ d.Rendered := by
      rintro ⟨content, hc⟩
      rw [hcontent] at hc
      cases hc
    rw [List.append_assoc] at hdrafts
    obtain ⟨mid, rfl, hrest⟩ := exists_of_append_of_notMem_left hdrafts fun h => hnot (hleading d h)
    obtain ⟨rest, hitems⟩ := exists_of_append_of_notMem_right hrest fun h => hnot (hfollowing d h)
    obtain ⟨pre, tail, rfl, rfl, htail⟩ := List.map_eq_append_iff.mp hitems
    obtain ⟨x, post, rfl, rfl, -⟩ := List.map_eq_cons_iff.mp htail
    exact ⟨pre, x, post, rfl, fun y hy => hbefore _ (List.mem_append_right _ (List.mem_map_of_mem hy)), hn,
      hcontent⟩
  · rintro ⟨pre, x, post, rfl, hpre, hn, hx⟩
    refine ⟨leading ++ pre.map f, f x, post.map f ++ following, by simp, ?_, hn, fails_template_iff.mpr hx⟩
    intro d hd
    rcases List.mem_append.mp hd with hd | hd
    · exact hleading d hd
    · obtain ⟨y, hy, rfl⟩ := List.mem_map.mp hd
      exact hpre y hy

end ArtifactSet

end ApiScaffold
