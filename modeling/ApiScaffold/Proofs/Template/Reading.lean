import ApiScaffold.Proofs.Package.Shape
import ApiScaffold.Proofs.Template.Slice

namespace ApiScaffold.Template

open Chain Text

variable {starts : List (List Char)}

lemma linesWith_render {env : Env} {context : List (String × Data)} {template residual : Template}
    {text kept : String} (hfits : Fits (.record env) (.map context)) (hself : env.all (·.1 ≠ "self"))
    (hstarts : startsWithOne starts [] = false)
    (h : SlicesTo starts env template residual)
    (ht : Template.render template context = .ok text)
    (hk : renderNodes (.ofContext context) residual = .ok kept) :
    linesWith starts text = lines kept := by
  rw [hfits.render hself] at ht
  obtain ⟨kept', hk', hlines⟩ := h.exists_render hstarts hfits.scope ht
  rw [linesWith, ← hlines, Except.ok.inj (hk.symm.trans hk')]

lemma lines_join {α : Type} {items : List α} {ls : α → List (List Char)}
    (h : ∀ x ∈ items, ∀ l ∈ ls x, '\n' ∉ l) :
    lines (String.join (items.map fun x => String.ofList (unlines (ls x)))) = items.flatMap ls := by
  have hjoin : String.join (items.map fun x => String.ofList (unlines (ls x))) =
      String.ofList (unlines (items.flatMap ls)) := by
    rw [← String.toList_inj, String.toList_join, unlines_flatMap, String.toList_ofList]
    simp [List.flatMap_map]
  rw [hjoin, lines_ofList_unlines]
  intro l hl
  obtain ⟨x, hx, hmem⟩ := List.mem_flatMap.mp hl
  exact h x hx l hmem

variable {α β : Type} {read : List Char → Option β} {scope : Scope} {nodes rest : List Node}
    {out more : List β}

def Reads (read : List Char → Option β) (scope : Scope) (nodes : List Node) (out : List β) : Prop :=
  ∃ ls, renderNodes scope nodes = .ok (String.ofList (unlines ls)) ∧ (∀ l ∈ ls, '\n' ∉ l) ∧
    ls.filterMap read = out

def textLines : List Node → Option (List (List Char))
  | [] => some []
  | .text s :: rest =>
    match cut s.toList with
    | some (body, true) => (textLines rest).map (body :: ·)
    | _ => none
  | _ => none

lemma not_binds_of_textLines {nodes : List Node} {ls : List (List Char)} (h : textLines nodes = some ls) :
    nodes.all (!·.binds) := by
  induction nodes generalizing ls with
  | nil => rfl
  | cons node rest ih =>
    cases node with
    | text s =>
      rw [textLines] at h
      split at h
      · obtain ⟨more, hmore, -⟩ := Option.map_eq_some_iff.mp h
        exact ih hmore
      · cases h
    | _ => cases h

lemma exists_mapM_lines {items : List α} {f : α → Except Fault String} {g : α → List β}
    (h : ∀ x ∈ items, ∃ ls, f x = .ok (String.ofList (unlines ls)) ∧ (∀ l ∈ ls, '\n' ∉ l) ∧
      ls.filterMap read = g x) :
    ∃ ls texts, items.mapM f = .ok texts ∧ String.join texts = String.ofList (unlines ls) ∧
    (∀ l ∈ ls, '\n' ∉ l) ∧
      ls.filterMap read = items.flatMap g := by
  induction items with
  | nil => exact ⟨[], [], rfl, rfl, List.forall_mem_nil _, rfl⟩
  | cons x rest ih =>
    obtain ⟨ls, texts, htexts, hjoin, hls, hread⟩ := ih fun y hy => h y (List.mem_cons_of_mem x hy)
    obtain ⟨first, hrender, hfirst, hout⟩ := h x List.mem_cons_self
    refine ⟨first ++ ls, String.ofList (unlines first) :: texts, ?_, ?_,
      List.forall_mem_append.mpr ⟨hfirst, hls⟩, ?_⟩
    · rw [List.mapM_cons, hrender, htexts]
      rfl
    · rw [String.join_cons, hjoin]
      simp [unlines]
    · rw [List.filterMap_append, hout, hread, List.flatMap_cons]

lemma flatMap_ite {p : α → Bool} {g : α → List β} (items : List α) :
    (items.flatMap fun x => if p x then g x else []) = (items.filter p).flatMap g := by
  induction items with
  | nil => rfl
  | cons x rest ih =>
    rw [List.flatMap_cons, ih]
    cases hx : p x <;> simp [hx]

namespace Reads

lemma nil : Reads read scope [] [] := ⟨[], by rw [renderNodes]; rfl, List.forall_mem_nil _, rfl⟩

lemma append (hn : nodes.all (!·.binds)) (h : Reads read scope nodes out)
    (hrest : Reads read scope rest more) :
    Reads read scope (nodes ++ rest) (out ++ more) := by
  obtain ⟨ls, hrender, hls, rfl⟩ := h
  obtain ⟨ls', hrender', hls', rfl⟩ := hrest
  refine ⟨ls ++ ls', ?_, List.forall_mem_append.mpr ⟨hls, hls'⟩, List.filterMap_append⟩
  rw [renderNodes_append hn, hrender, hrender']
  simp [unlines]

lemma line {text : String} {body : List Char} {b : β} (h : renderNodes scope nodes = .ok text)
    (htext : text.toList = body ++ ['\n']) (hbody : '\n' ∉ body) (hb : read body = some b) :
    Reads read scope nodes [b] := by
  refine ⟨[body], ?_, List.forall_mem_singleton.mpr hbody, by simp [hb]⟩
  rw [h, Except.ok.injEq, ← String.toList_inj, htext]
  simp [unlines]

lemma text {s : String} {cs body : List Char} {b : β} (hs : s = String.ofList cs)
    (hcut : cut cs = some (body, true))
    (hb : read body = some b) (hrest : Reads read scope rest out) : Reads read scope (.text s :: rest)
    (b :: out) := by
  obtain ⟨hbody, rfl⟩ := eq_of_cut hcut
  have hrender : renderNodes scope [.text s] = .ok s := by simp [renderNodes]
  have hline : Reads read scope [.text s] [b] := line hrender (by simp [hs]) hbody hb
  exact append rfl hline hrest

lemma skip {s : String} {cs body : List Char} (hs : s = String.ofList cs) (hcut : cut cs = some (body, true))
    (hb : read body = none) (hrest : Reads read scope rest out) : Reads read scope (.text s :: rest) out := by
  obtain ⟨hbody, rfl⟩ := eq_of_cut hcut
  have hline : Reads read scope [.text s] [] := by
    refine ⟨[body], ?_, List.forall_mem_singleton.mpr hbody, by simp [hb]⟩
    simp [renderNodes, hs, unlines]
  exact append rfl hline hrest

lemma assign {n : String} {e : Expr} {v : Value} (hv : e.eval scope = .ok v)
    (h : Reads read ((n, v) :: scope) rest out) :
    Reads read scope (.assign n e :: rest) out := by
  obtain ⟨ls, hrender, hls⟩ := h
  exact ⟨ls, by rw [renderNodes, hv]; exact hrender, hls⟩

lemma when {c : Condition} {b : Bool} {body otherwise : List Node} (hc : c.eval scope = .ok b)
    (h : Reads read scope (if b then body else otherwise) out) (hrest : Reads read scope rest more) :
    Reads read scope (.when c body otherwise :: rest) (out ++ more) := by
  refine append rfl (?_ : Reads read scope [.when c body otherwise] out) hrest
  obtain ⟨ls, hrender, hls⟩ := h
  refine ⟨ls, ?_, hls⟩
  rw [renderNodes, hc, ok_bind, renderNodes]
  cases b with
  | false | true => simp_all

lemma forEach {n : String} {source : Expr} {items : List α} {f : α → Data} {g : α → List β} {body : List Node}
    (hsource : source.data scope = .ok (.list (items.map f)))
    (h : ∀ x ∈ items, ∀ last, Reads read ((scope.bind "loop" (loopData last)).bind n (f x)) body (g x))
    (hrest : Reads read scope rest out) :
    Reads read scope (.forEach n source body [] :: rest) (items.flatMap g ++ out) := by
  refine append rfl (?_ : Reads read scope [.forEach n source body []] (items.flatMap g)) hrest
  have hitems : ∀ x ∈ withLast items,
      Reads read ((scope.bind "loop" (loopData x.2)).bind n (f x.1)) body (g x.1) :=
    fun x hx => h x.1 (mem_of_mem_withLast hx) x.2
  obtain ⟨ls, texts, htexts, hjoin, hls, hread⟩ := exists_mapM_lines hitems
  rw [List.flatMap_def, map_withLast g, ← List.flatMap_def] at hread
  refine ⟨ls, ?_, hls, hread⟩
  rw [renderNodes_forEach hsource, renderNodes, ← hjoin, loopText]
  split
  · rename_i hempty
    rw [List.isEmpty_iff, List.map_eq_nil_iff] at hempty
    subst hempty
    cases htexts
    simp [renderNodes]
  · rw [withLast_map, List.mapM_map]
    simp only [Function.comp_def, htexts]
    simp

lemma forEntries {k v : String} {source only : Expr} {items : List (String × α)} {f : α → Data}
    (keep : α → Bool) {g : String × α → List β} {body : List Node}
    (hsource : source.data scope = .ok (.map (items.map fun item => (item.1, f item.2))))
    (honly : ∀ item ∈ items, ∃ b, only.data ((scope.bind k (.string item.1)).bind v (f item.2)) = .ok b ∧
      b.truthy = keep item.2)
    (h : ∀ item ∈ items, Reads read ((scope.bind k (.string item.1)).bind v (f item.2)) body (g item))
    (hrest : Reads read scope rest out) :
    Reads read scope (.forEntries k v source only body :: rest)
      ((items.filter (keep ·.2)).flatMap g ++ out) := by
  refine append rfl
    (?_ : Reads read scope [.forEntries k v source only body] ((items.filter (keep ·.2)).flatMap g)) hrest
  have hitems : ∀ item ∈ items, ∃ ls, entryText scope k v only body (item.1, f item.2) =
      .ok (String.ofList (unlines ls)) ∧
      (∀ l ∈ ls, '\n' ∉ l) ∧ ls.filterMap read = if keep item.2 then g item else [] := by
    intro item hitem
    obtain ⟨b, hb, hkeep⟩ := honly item hitem
    rw [entryText, hb, ok_bind, hkeep]
    cases keep item.2 with
    | true => exact h item hitem
    | false => exact ⟨[], rfl, List.forall_mem_nil _, rfl⟩
  obtain ⟨ls, texts, htexts, hjoin, hls, hread⟩ := exists_mapM_lines hitems
  rw [flatMap_ite] at hread
  refine ⟨ls, ?_, hls, hread⟩
  rw [renderNodes_forEntries hsource, renderNodes, ← hjoin, List.mapM_map]
  simp only [Function.comp_def, htexts]
  simp

lemma texts {nodes : List Node} {ls : List (List Char)} (h : textLines nodes = some ls) :
    Reads some scope nodes ls := by
  induction nodes generalizing ls with
  | nil =>
    cases h
    exact nil
  | cons node rest ih =>
    cases node with
    | text s =>
      rw [textLines] at h
      split at h
      · rename_i body hcut
        obtain ⟨more, hmore, rfl⟩ := Option.map_eq_some_iff.mp h
        exact text (String.ofList_toList).symm hcut rfl (ih hmore)
      · cases h
    | _ => cases h

lemma texts_append {nodes : List Node} {ls out : List (List Char)} (h : textLines nodes = some ls)
    (hrest : Reads some scope rest out) : Reads some scope (nodes ++ rest) (ls ++ out) :=
  append (not_binds_of_textLines h) (texts h) hrest

end Reads

lemma exists_lines_of_reads {ls : List (List Char)} {source : String} (hn : nodes.all (!·.binds))
    (h : Reads some scope nodes ls) (hrender : renderNodes scope (nodes ++ rest) = .ok source) :
    ∃ after, lines source = ls ++ after := by
  obtain ⟨found, hfound, hnewline, hread⟩ := h
  rw [renderNodes_append hn, hfound] at hrender
  obtain ⟨tail, -, rfl⟩ := map_eq_ok.mp hrender
  rw [lines_append hnewline, ← hread, List.filterMap_some]
  exact ⟨_, rfl⟩

lemma filterMap_linesWith {env : Env} {context : List (String × Data)}
    {template residual : Template} {text : String}
    (hfits : Fits (.record env) (.map context)) (hself : env.all (·.1 ≠ "self"))
    (hstarts : startsWithOne starts [] = false) (h : SlicesTo starts env template residual)
    (ht : Template.render template context = .ok text)
    (hreads : Reads read (.ofContext context) residual out) :
    (linesWith starts text).filterMap read = out := by
  obtain ⟨ls, hrender, hls, hread⟩ := hreads
  rw [linesWith_render hfits hself hstarts h ht hrender, lines_ofList_unlines hls, hread]

end ApiScaffold.Template
