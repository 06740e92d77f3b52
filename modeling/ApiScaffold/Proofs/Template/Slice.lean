import ApiScaffold.Proofs.Template.Check
import ApiScaffold.Proofs.Template.Reach
import ApiScaffold.Proofs.Template.Render
import Mathlib.Data.List.Forall2

/-!
Slices of templates. Of the lines that a template renders, only those with one of some given texts in
front are kept: the slice is the template without the nodes of all other lines. Loops and choices may
stand where a line begins, or inside a line that is known to be dropped.

The texts of the template are given once more as characters: that a literal is made of certain characters
is checked at once, but to read its characters off its bytes takes time quadratic in their number.
-/

namespace ApiScaffold.Template

open Chain Text

def cut (s : List Char) : Option (List Char × Bool) :=
  if '\n' ∉ s then some (s, false)
  else if s.getLast? = some '\n' ∧ '\n' ∉ s.dropLast then some (s.dropLast, true)
  else none

lemma eq_of_cut {s body : List Char} {ends : Bool} (h : cut s = some (body, ends)) :
    '\n' ∉ body ∧ s = body ++ if ends then ['\n'] else [] := by
  simp only [cut] at h
  split at h
  · rename_i hs
    cases h
    exact ⟨hs, by simp⟩
  · split at h
    · rename_i hs
      cases h
      obtain ⟨init, rfl⟩ := List.getLast?_eq_some_iff.mp hs.1
      exact ⟨hs.2, by simp⟩
    · cases h

variable (starts : List (List Char))

def prepend (silent : Bool) (node : Node) (out : List Node) : List Node := if silent then out else node :: out

def returning (reach : Reach) : Option (List Node × Reach × List (List Char)) →
    Option (List Node × List (List Char))
  | some (out, last, chars) => if last = reach then some (out, chars) else none
  | none => none

/--
The slice of the nodes after the given ones of the same line, and what is left of `chars` after their
texts. It is not found where a line may or may not be kept.
-/
def slice (env : Env) (reach : Reach) (line : List Node) (chars : List (List Char)) :
    List Node → Option (List Node × Reach × List (List Char))
  | [] => if reach.settled then some ([], reach, chars) else none
  | .text s :: rest =>
    match chars with
    | [] => none
    | cs :: chars =>
      if s = String.ofList cs then
        match cut cs with
        | none => none
        | some (body, ends) =>
          match reach.feed starts body with
          | none => none
          | some next =>
            if ends then
              match next.finish starts with
              | none => none
              | some keep => (slice env (.begun []) [] chars rest).map fun (out, state) =>
                  (if keep then line ++ .text s :: out else out, state)
            else slice env next (line ++ [.text s]) chars rest
      else none
  | .print e :: rest =>
    match (e.shape? env).bind reach.print with
    | none => none
    | some next => slice env next (line ++ [.print e]) chars rest
  | .assign n e :: rest =>
    match e.shape? env with
    | none => none
    | some s =>
      if reach.settled && e.safe false env then
        (slice ((n, s) :: env) reach [] chars rest).map fun (out, state) =>
          (prepend out.isEmpty (.assign n e) out, state)
      else none
  | .when c body otherwise :: rest =>
    if reach.settled then
      match returning reach (slice env reach [] chars body) with
      | none => none
      | some (body, chars) =>
        match returning reach (slice env reach [] chars otherwise) with
        | none => none
        | some (otherwise, chars) => (slice env reach [] chars rest).map fun (out, state) =>
            (prepend (body.isEmpty && otherwise.isEmpty) (.when c body otherwise) out, state)
    else none
  | .forEach n source body otherwise :: rest =>
    if reach.settled then
      match (source.shape? env).bind Shape.item? with
      | none => none
      | some item =>
        match returning reach (slice ((n, item) :: ("loop", loopShape) :: env) reach [] chars body) with
        | none => none
        | some (body, chars) =>
          match returning reach (slice env reach [] chars otherwise) with
          | none => none
          | some (otherwise, chars) => (slice env reach [] chars rest).map fun (out, state) =>
              (prepend (body.isEmpty && otherwise.isEmpty) (.forEach n source body otherwise) out, state)
    else none
  | .forEntries k v source only body :: rest =>
    if reach.settled then
      match source.shape? env with
      | some (.table key value) =>
        match returning reach (slice ((v, value) :: (k, key) :: env) reach [] chars body) with
        | none => none
        | some (body, chars) => (slice env reach [] chars rest).map fun (out, state) =>
            (prepend body.isEmpty (.forEntries k v source only body) out, state)
      | _ => none
    else none

def texts : List Node → List String
  | [] => []
  | .text s :: rest => s :: texts rest
  | .print _ :: rest | .assign _ _ :: rest => texts rest
  | .when _ body otherwise :: rest | .forEach _ _ body otherwise :: rest =>
    texts body ++ texts otherwise ++ texts rest
  | .forEntries _ _ _ _ body :: rest => texts body ++ texts rest

def SlicesTo (env : Env) (template residual : Template) : Prop :=
  ∃ chars, List.Forall₂ (fun s cs => s = String.ofList cs) (texts template) chars ∧
    slice starts env (.begun []) [] chars template = some (residual, .begun [], [])

/--
Rendering `text` after the start of a line leaves the line in a described state, and `kept` is made of
the lines that end in it and are kept.
-/
def Keeps (line : List Char) (last : Reach) (text kept : String) : Prop :=
  last.Describes starts (linesFrom line text.toList).2 ∧
    linesFrom [] kept.toList = ((linesFrom line text.toList).1.filter (startsWithOne starts), [])

def Pending (scope : Scope) (nodes : List Node) (line : List Char) : Prop :=
  ∀ rest text, renderNodes scope rest = .ok text →
    renderNodes scope (nodes ++ rest) = .ok (String.ofList line ++ text)

variable {starts}

lemma Keeps.append {line : List Char} {mid last : Reach} {t u t' u' : String}
    (ht : Keeps starts line mid t t')
    (hu : Keeps starts (linesFrom line t.toList).2 last u u') : Keeps starts line last (t ++ u)
    (t' ++ u') := by
  obtain ⟨-, hkept⟩ := ht
  obtain ⟨hlast, hrest⟩ := hu
  unfold Keeps
  rw [String.toList_append, String.toList_append, linesFrom_append, linesFrom_append, hkept, hrest,
    List.filter_append]
  exact ⟨hlast, rfl⟩

lemma Keeps.empty {line : List Char} {reach : Reach} (h : reach.Describes starts line) :
    Keeps starts line reach "" "" := by
  simpa [Keeps, linesFrom] using h

lemma Keeps.of_notMem {line : List Char} {last : Reach} {s t t' : String} (hs : '\n' ∉ s.toList)
    (h : Keeps starts (line ++ s.toList) last t t') : Keeps starts line last (s ++ t) t' := by
  unfold Keeps at h ⊢
  rw [String.toList_append, linesFrom_append, linesFrom_of_notMem line hs]
  simpa using h

lemma Keeps.line {line : List Char} {last : Reach} {s t t' : String} {body : List Char}
    (hs : s.toList = body ++ ['\n']) (hline : '\n' ∉ line ++ body) (h : Keeps starts [] last t t') :
    Keeps starts line last (s ++ t)
      (if startsWithOne starts (line ++ body) then String.ofList line ++ (s ++ t') else t') := by
  have hbody : '\n' ∉ body := fun hmem => hline (List.mem_append_right line hmem)
  obtain ⟨hlast, hrest⟩ := h
  have htext : linesFrom line (s ++ t).toList = ((line ++ body) :: (linesFrom [] t.toList).1,
      (linesFrom [] t.toList).2) := by
    rw [String.toList_append, hs, List.append_assoc, linesFrom_append, linesFrom_of_notMem line hbody]
    rfl
  unfold Keeps
  rw [htext]
  refine ⟨hlast, ?_⟩
  split
  · rename_i hkeep
    have hkept : (String.ofList line ++ (s ++ t')).toList = (line ++ body) ++ '\n' :: t'.toList := by
      simp [hs]
    rw [hkept, linesFrom_line hline, hrest, List.filter_cons_of_pos hkeep]
  · rename_i hkeep
    rw [hrest, List.filter_cons_of_neg hkeep]

lemma Pending.nil (scope : Scope) : Pending scope [] [] := by
  intro rest text h
  simpa using h

lemma Pending.append {scope : Scope} {nodes : List Node} {line : List Char} (h : Pending scope nodes line)
    {node : Node} {s : String}
    (hnode : ∀ rest text, renderNodes scope rest = .ok text →
      renderNodes scope (node :: rest) = .ok (s ++ text)) :
    Pending scope (nodes ++ [node]) (line ++ s.toList) := by
  intro rest text hrest
  have := h (node :: rest) (s ++ text) (hnode rest text hrest)
  simpa [String.ofList_append, String.append_assoc] using this

lemma renderNodes_text {scope : Scope} {rest : List Node} {s text : String}
    (h : renderNodes scope rest = .ok text) :
    renderNodes scope (.text s :: rest) = .ok (s ++ text) := by
  rw [renderNodes, h]
  rfl

lemma renderNodes_print {scope : Scope} {rest : List Node} {e : Expr} {v : Data} {text : String}
    (hv : e.data scope = .ok v) (h : renderNodes scope rest = .ok text) :
    renderNodes scope (.print e :: rest) = .ok (v.display ++ text) := by
  rw [renderNodes, hv, h]
  rfl

lemma eq_of_returning {reach : Reach} {result : Option (List Node × Reach × List (List Char))}
    {out : List Node} {chars : List (List Char)} (h : returning reach result = some (out, chars)) :
    result = some (out, reach, chars) := by
  unfold returning at h
  split at h
  · split at h
    · rename_i hlast
      cases h
      rw [hlast]
    · cases h
  · cases h

lemma renderNodes_prepend {scope : Scope} {silent : Bool} {node : Node} {out : List Node} {s kept : String}
    (hnode : ∀ rest text, renderNodes scope rest = .ok text →
      renderNodes scope (node :: rest) = .ok (s ++ text))
    (hsilent : silent → s = "") (hk : renderNodes scope out = .ok kept) :
    renderNodes scope (prepend silent node out) = .ok (s ++ kept) := by
  cases silent with
  | false => exact hnode out kept hk
  | true => simpa [prepend, hsilent rfl] using hk

/-- Where a slice stands: `line` are the nodes and `before` is the text of the line so far. -/
structure Midline (starts : List (List Char)) (env : Env) (scope : Scope) (reach : Reach) (line : List Node)
    (before : List Char) : Prop where
  fits : FitsScope env scope
  described : reach.Describes starts before
  notMem : '\n' ∉ before
  pending : reach = .passed ∨ Pending scope line before

lemma Midline.ofSettled {env : Env} {scope : Scope} {reach : Reach} {before : List Char}
    (hs : FitsScope env scope)
    (h : reach.settled) (hr : reach.Describes starts before) (hbefore : '\n' ∉ before) :
    Midline starts env scope reach [] before := by
  refine ⟨hs, hr, hbefore, ?_⟩
  cases reach with
  | begun p =>
    cases p with
    | nil =>
      obtain ⟨rfl, -⟩ := hr
      exact .inr (Pending.nil scope)
    | cons c p => simp [Reach.settled] at h
  | passed => exact .inl rfl
  | word p | hit => simp [Reach.settled] at h

lemma Midline.extend {env : Env} {scope : Scope} {reach next : Reach} {line : List Node}
    {before : List Char} {node : Node} {s : String} (hm : Midline starts env scope reach line before)
    (hpassed : reach = .passed → next = .passed)
    (hdescribes : next.Describes starts (before ++ s.toList)) (hs : '\n' ∉ s.toList)
    (hnode : ∀ rest text, renderNodes scope rest = .ok text →
      renderNodes scope (node :: rest) = .ok (s ++ text)) :
    Midline starts env scope next (line ++ [node]) (before ++ s.toList) where
  fits := hm.fits
  described := hdescribes
  notMem := by simp [hm.notMem, hs]
  pending := hm.pending.imp hpassed (·.append hnode)

/-- A slice of the nodes renders what is kept of the lines that the nodes render. -/
def Sliced (starts : List (List Char)) (scope : Scope) (nodes : List Node) : Prop :=
  ∀ {env : Env} {reach last : Reach} {line out : List Node} {before : List Char}
    {chars unread : List (List Char)} {text : String}, Midline starts env scope reach line before →
      slice starts env reach line chars nodes = some (out, last, unread) →
        renderNodes scope nodes = .ok text → ∃ kept, renderNodes scope out = .ok kept ∧
        Keeps starts before last text kept

lemma exists_mapM_keeps {α : Type} {f g : α → Except Fault String} {reach : Reach} {items : List α}
    (h : ∀ x ∈ items, ∀ line text, '\n' ∉ line → reach.Describes starts line → f x = .ok text →
      ∃ kept, g x = .ok kept ∧ Keeps starts line reach text kept)
    {line : List Char} (hline : '\n' ∉ line) (hr : reach.Describes starts line) {texts : List String}
    (hf : items.mapM f = .ok texts) :
    ∃ kept, items.mapM g = .ok kept ∧ Keeps starts line reach (String.join texts) (String.join kept) := by
  induction items generalizing line texts with
  | nil =>
    cases hf
    exact ⟨[], rfl, by simpa using Keeps.empty hr⟩
  | cons x rest ih =>
    rw [List.mapM_cons] at hf
    obtain ⟨t, ht, hf⟩ := bind_eq_ok.mp hf
    obtain ⟨ts, hts, hf⟩ := bind_eq_ok.mp hf
    cases hf
    obtain ⟨t', ht', hkeeps⟩ := h x List.mem_cons_self line t hline hr ht
    obtain ⟨ts', hts', hrest⟩ := ih (fun y hy => h y (List.mem_cons_of_mem x hy)) (notMem_linesFrom hline _)
      hkeeps.1 hts
    refine ⟨t' :: ts', by simp [ht', hts'], ?_⟩
    rw [String.join_cons, String.join_cons]
    exact hkeeps.append hrest

namespace Sliced

variable {scope : Scope} {rest : List Node}

lemma nil (scope : Scope) : Sliced starts scope [] := by
  intro env reach last line out before chars unread text hm h ht
  simp only [slice, Option.ite_none_right_eq_some, Option.some.injEq, Prod.mk.injEq] at h
  obtain ⟨-, rfl, rfl, -⟩ := h
  rw [renderNodes] at ht
  cases ht
  exact ⟨"", by rw [renderNodes], Keeps.empty hm.described⟩

lemma text_ends (hstarts : startsWithOne starts [] = false) (ih : Sliced starts scope rest) {env : Env}
    {reach next last : Reach} {line out : List Node} {before body : List Char}
    {chars unread : List (List Char)}
    {s t : String} {keep : Bool} (hm : Midline starts env scope reach line before)
    (hs : s.toList = body ++ ['\n']) (hbody : '\n' ∉ body) (hnext : reach.feed starts body = some next)
    (hkeep : next.finish starts = some keep)
    (hout : slice starts env (.begun []) [] chars rest = some (out, last, unread))
    (ht : renderNodes scope rest = .ok t) :
    ∃ kept, renderNodes scope (if keep then line ++ .text s :: out else out) = .ok kept ∧
      Keeps starts before last (s ++ t) kept := by
  have hbegun : Midline starts env scope (.begun []) [] [] :=
    .ofSettled hm.fits rfl ⟨rfl, hstarts⟩ List.not_mem_nil
  obtain ⟨kept, hk, hkeeps⟩ := ih hbegun hout ht
  have hmem : '\n' ∉ before ++ body := by simp [hm.notMem, hbody]
  have hline := Keeps.line hs hmem hkeeps
  rw [Reach.finish_eq hkeep (Reach.describes_feed hnext hm.described)] at hline
  cases keep with
  | false => exact ⟨kept, hk, hline⟩
  | true =>
    refine ⟨_, ?_, hline⟩
    rcases hm.pending with rfl | hpending
    · -- a line that has passed all texts is not kept
      cases hnext
      cases hkeep
    · exact hpending _ _ (renderNodes_text hk)

lemma text (hstarts : startsWithOne starts [] = false) (ih : Sliced starts scope rest) (s : String) :
    Sliced starts scope (.text s :: rest) := by
  intro env reach last line out before chars unread text hm h ht
  rw [renderNodes] at ht
  obtain ⟨t, hrest, ht⟩ := bind_eq_ok.mp ht
  cases ht
  obtain _ | ⟨cs, chars⟩ := chars
  · simp [slice] at h
  simp only [slice, Option.ite_none_right_eq_some] at h
  obtain ⟨hchars, h⟩ := h
  split at h
  · cases h
  rename_i body ends hcut
  obtain ⟨hbody, hs⟩ := eq_of_cut hcut
  replace hs : s.toList = body ++ if ends then ['\n'] else [] := by rw [hchars, String.toList_ofList, hs]
  split at h
  · cases h
  rename_i next hnext
  cases ends with
  | true =>
    rw [if_pos rfl] at h hs
    split at h
    · cases h
    rename_i keep hkeep
    obtain ⟨⟨out', last', unread'⟩, hout, heq⟩ := Option.map_eq_some_iff.mp h
    cases heq
    exact text_ends hstarts ih hm hs hbody hnext hkeep hout hrest
  | false =>
    simp only [Bool.false_eq_true, if_false, List.append_nil] at h hs
    subst hs
    have hmid :=
      hm.extend (by rintro rfl; exact Reach.feed_passed hnext) (Reach.describes_feed hnext hm.described) hbody
      fun _ _ => renderNodes_text
    obtain ⟨kept, hk, hkeeps⟩ := ih hmid h hrest
    exact ⟨kept, hk, hkeeps.of_notMem hbody⟩

lemma print (ih : Sliced starts scope rest) (e : Expr) : Sliced starts scope (.print e :: rest) := by
  intro env reach last line out before chars unread text hm h ht
  rw [renderNodes] at ht
  obtain ⟨v, hv, ht⟩ := bind_eq_ok.mp ht
  obtain ⟨t, hrest, ht⟩ := bind_eq_ok.mp ht
  cases ht
  simp only [slice] at h
  split at h
  · cases h
  rename_i next hnext
  obtain ⟨shape, hshape, hprint⟩ := Option.bind_eq_some_iff.mp hnext
  have hfits := e.fits_data hm.fits hshape hv
  have hmem := Reach.notMem_of_print hprint hfits
  have hmid := hm.extend (by rintro rfl; exact Reach.print_eq_self (.inl rfl) hprint)
    (Reach.describes_print hprint hfits hm.described) hmem fun _ _ => renderNodes_print hv
  obtain ⟨kept, hk, hkeeps⟩ := ih hmid h hrest
  exact ⟨kept, hk, hkeeps.of_notMem hmem⟩

lemma assign {n : String} {e : Expr} (ih : ∀ value, Sliced starts ((n, value) :: scope) rest) :
    Sliced starts scope (.assign n e :: rest) := by
  intro env reach last line out before chars unread text hm h ht
  rw [renderNodes] at ht
  obtain ⟨value, hvalue, hrest⟩ := bind_eq_ok.mp ht
  simp only [slice] at h
  split at h
  · cases h
  rename_i shape hshape
  simp only [Option.ite_none_right_eq_some, Bool.and_eq_true] at h
  obtain ⟨⟨hsettled, hsafe⟩, h⟩ := h
  obtain ⟨v, hv⟩ := (e.harmless_data hm.fits hsafe).exists_ok
  obtain rfl : value = .defined v := Except.ok.inj (hvalue.symm.trans (Expr.eval_of_data hv))
  obtain ⟨⟨out', last', unread'⟩, hout, heq⟩ := Option.map_eq_some_iff.mp h
  cases heq
  have hinner := hm.fits.bind (n := n) (e.fits_data hm.fits hshape hv)
  obtain ⟨kept, hk, hkeeps⟩ := ih _ (.ofSettled hinner hsettled hm.described hm.notMem) hout hrest
  refine ⟨kept, ?_, hkeeps⟩
  unfold prepend
  split
  · rename_i hempty
    rw [renderNodes_nil_eq hempty hk, List.isEmpty_iff.mp hempty, renderNodes]
  · rw [renderNodes, hvalue]
    exact hk

lemma cons {env : Env} {reach last : Reach} {line out : List Node} {before : List Char}
    {chars unread : List (List Char)}
    {silent : Bool} {node : Node} {t t' u : String} (ih : Sliced starts scope rest)
    (hm : Midline starts env scope reach line before) (hsettled : reach.settled)
    (hkeeps : Keeps starts before reach t t') (hnode : ∀ more text, renderNodes scope more = .ok text →
      renderNodes scope (node :: more) = .ok (t' ++ text))
    (hsilent : silent → t' = "") (hout : slice starts env reach [] chars rest = some (out, last, unread))
    (hu : renderNodes scope rest = .ok u) :
    ∃ kept, renderNodes scope (prepend silent node out) = .ok kept ∧
    Keeps starts before last (t ++ u) kept := by
  obtain ⟨u', hu', hrest⟩ := ih (.ofSettled hm.fits hsettled hkeeps.1 (notMem_linesFrom hm.notMem _)) hout hu
  exact ⟨t' ++ u', renderNodes_prepend hnode hsilent hu', hkeeps.append hrest⟩

lemma when {c : Condition} {body otherwise : List Node} (hbody : Sliced starts scope body)
    (hotherwise : Sliced starts scope otherwise) (ih : Sliced starts scope rest) :
    Sliced starts scope (.when c body otherwise :: rest) := by
  intro env reach last line out before chars unread text hm h ht
  rw [renderNodes] at ht
  obtain ⟨b, hb, ht⟩ := bind_eq_ok.mp ht
  simp only [slice, Option.ite_none_right_eq_some] at h
  obtain ⟨hsettled, h⟩ := h
  split at h
  · cases h
  rename_i body' chars' hbody'
  split at h
  · cases h
  rename_i otherwise' chars'' hotherwise'
  obtain ⟨⟨out', last', unread'⟩, hout, heq⟩ := Option.map_eq_some_iff.mp h
  cases heq
  obtain ⟨t, htext, ht⟩ : ∃ t, renderNodes scope (if b then body else otherwise) = .ok t ∧
      (do return t ++ (← renderNodes scope rest)) = .ok text := by
    cases b <;> exact bind_eq_ok.mp ht
  obtain ⟨u, hu, ht⟩ := bind_eq_ok.mp ht
  cases ht
  have hbranch : Midline starts env scope reach [] before :=
    .ofSettled hm.fits hsettled hm.described hm.notMem
  obtain ⟨t', ht', hkeeps⟩ : ∃ t', renderNodes scope (if b then body' else otherwise') = .ok t' ∧
      Keeps starts before reach t t' := by
    cases b with
    | false => exact hotherwise hbranch (eq_of_returning hotherwise') htext
    | true => exact hbody hbranch (eq_of_returning hbody') htext
  refine ih.cons hm hsettled hkeeps (fun more text hmore => ?_) (fun hsilent => ?_) hout hu
  · rw [renderNodes, hb, hmore]
    cases b <;> simp_all
  · rw [Bool.and_eq_true] at hsilent
    cases b with
    | false => exact renderNodes_nil_eq hsilent.2 ht'
    | true => exact renderNodes_nil_eq hsilent.1 ht'

section

variable {env : Env} {reach : Reach} {line : List Node} {before : List Char} {chars unread : List (List Char)}

lemma exists_loopText {n : String} {items : List Data} {item : Shape}
    {body body' otherwise otherwise' : List Node} {t : String}
    (hbody : ∀ item last, Sliced starts ((scope.bind "loop" (loopData last)).bind n item) body)
    (hotherwise : Sliced starts scope otherwise) (hm : Midline starts env scope reach line before)
    (hsettled : reach.settled) (hitems : ∀ x ∈ items, Fits item x)
    (hsliceBody : slice starts ((n, item) :: ("loop", loopShape) :: env) reach [] chars body =
      some (body', reach, unread))
    {chars' unread' : List (List Char)}
    (hsliceOtherwise : slice starts env reach [] chars' otherwise = some (otherwise', reach, unread'))
    (ht : loopText scope n items body otherwise = .ok t) :
    ∃ t', loopText scope n items body' otherwise' = .ok t' ∧ Keeps starts before reach t t' := by
  unfold loopText at ht ⊢
  split at ht
  · rename_i hempty
    rw [if_pos hempty]
    exact hotherwise (.ofSettled hm.fits hsettled hm.described hm.notMem) hsliceOtherwise ht
  · rename_i hempty
    rw [if_neg hempty]
    obtain ⟨texts, htexts, rfl⟩ := map_eq_ok.mp ht
    have hitem : ∀ x ∈ withLast items, FitsScope ((n, item) :: ("loop", loopShape) :: env)
        ((scope.bind "loop" (loopData x.2)).bind n x.1) := fun x hx =>
      (hm.fits.bind (fits_loopData x.2)).bind (hitems x.1 (mem_of_mem_withLast hx))
    obtain ⟨kept, hkept, hkeeps⟩ := exists_mapM_keeps (fun x hx line text hline hr htext =>
      hbody x.1 x.2 (.ofSettled (hitem x hx) hsettled hr hline) hsliceBody htext) hm.notMem
        hm.described htexts
    exact ⟨String.join kept, by rw [hkept, map_ok], hkeeps⟩

lemma exists_entryText {k v : String} {key value : Shape} {only : Expr} {body body' : List Node}
    {entry : String × Data} {text : String}
    (hbody : ∀ (key : String) (item : Data), Sliced starts ((scope.bind k (.string key)).bind v item) body)
    (hinner : FitsScope ((v, value) :: (k, key) :: env) ((scope.bind k (.string entry.1)).bind v entry.2))
    (hsettled : reach.settled) (hr : reach.Describes starts before) (hbefore : '\n' ∉ before)
    (hslice : slice starts ((v, value) :: (k, key) :: env) reach [] chars body = some (body', reach, unread))
    (htext : entryText scope k v only body entry = .ok text) :
    ∃ kept, entryText scope k v only body' entry = .ok kept ∧ Keeps starts before reach text kept := by
  obtain ⟨b, hb, htext⟩ := bind_eq_ok.mp htext
  rw [entryText, hb, ok_bind]
  split at htext
  · rename_i htrue
    rw [if_pos htrue]
    exact hbody entry.1 entry.2 (.ofSettled hinner hsettled hr hbefore) hslice htext
  · rename_i hfalse
    rw [if_neg hfalse]
    cases htext
    exact ⟨"", rfl, Keeps.empty hr⟩

end

lemma forEach {n : String} {source : Expr} {body otherwise : List Node}
    (hbody : ∀ item last, Sliced starts ((scope.bind "loop" (loopData last)).bind n item) body)
    (hotherwise : Sliced starts scope otherwise) (ih : Sliced starts scope rest) :
    Sliced starts scope (.forEach n source body otherwise :: rest) := by
  intro env reach last line out before chars unread text hm h ht
  simp only [slice, Option.ite_none_right_eq_some] at h
  obtain ⟨hsettled, h⟩ := h
  split at h
  · cases h
  rename_i item hitem
  obtain ⟨shape, hshape, hitem⟩ := Option.bind_eq_some_iff.mp hitem
  split at h
  · cases h
  rename_i body' chars' hbody'
  split at h
  · cases h
  rename_i otherwise' chars'' hotherwise'
  obtain ⟨⟨out', last', unread'⟩, hout, heq⟩ := Option.map_eq_some_iff.mp h
  cases heq
  obtain ⟨v, hv, -⟩ := bind_eq_ok.mp (by rwa [renderNodes] at ht)
  obtain ⟨items, rfl, hitems⟩ := (source.fits_data hm.fits hshape hv).items hitem
  rw [renderNodes_forEach hv] at ht
  obtain ⟨t, htext, ht⟩ := bind_eq_ok.mp ht
  obtain ⟨u, hu, rfl⟩ := map_eq_ok.mp ht
  obtain ⟨t', ht', hkeeps⟩ := exists_loopText hbody hotherwise hm hsettled hitems (eq_of_returning hbody')
    (eq_of_returning hotherwise') htext
  refine ih.cons hm hsettled hkeeps (fun more text hmore => ?_) (fun hsilent => ?_) hout hu
  · rw [renderNodes_forEach hv, ht', hmore]
    rfl
  · rw [Bool.and_eq_true, List.isEmpty_iff, List.isEmpty_iff] at hsilent
    obtain ⟨rfl, rfl⟩ := hsilent
    exact loopText_nil ht'

lemma forEntries {k v : String} {source only : Expr} {body : List Node}
    (hbody : ∀ (key : String) (item : Data), Sliced starts ((scope.bind k (.string key)).bind v item) body)
    (ih : Sliced starts scope rest) : Sliced starts scope (.forEntries k v source only body :: rest) := by
  intro env reach last line out before chars unread text hm h ht
  simp only [slice, Option.ite_none_right_eq_some] at h
  obtain ⟨hsettled, h⟩ := h
  split at h
  · rename_i key value hshape
    split at h
    · cases h
    rename_i body' chars' hbody'
    obtain ⟨⟨out', last', unread'⟩, hout, heq⟩ := Option.map_eq_some_iff.mp h
    cases heq
    obtain ⟨w, hw, -⟩ := bind_eq_ok.mp (by rwa [renderNodes] at ht)
    cases source.fits_data hm.fits hshape hw with
    | @table _ _ items hkeys hvalues =>
      rw [renderNodes_forEntries hw] at ht
      obtain ⟨texts, htexts, ht⟩ := bind_eq_ok.mp ht
      obtain ⟨u, hu, rfl⟩ := map_eq_ok.mp ht
      have hinner (x : String × Data) (hx : x ∈ items) : FitsScope ((v, value) :: (k, key) :: env)
          ((scope.bind k (.string x.1)).bind v x.2) := (hm.fits.bind (hkeys x hx)).bind (hvalues x hx)
      obtain ⟨kept, hkept, hkeeps⟩ := exists_mapM_keeps (fun x hx line text hline hr htext =>
        exists_entryText hbody (hinner x hx) hsettled hr hline (eq_of_returning hbody') htext) hm.notMem
          hm.described htexts
      refine ih.cons hm hsettled hkeeps (fun more text hmore => ?_) (fun hsilent => ?_) hout hu
      · rw [renderNodes_forEntries hw, hkept, hmore]
        rfl
      · rw [List.isEmpty_iff] at hsilent
        subst hsilent
        exact join_entryText_nil hkept
  · cases h

end Sliced

lemma sliced (hstarts : startsWithOne starts [] = false) (scope : Scope) (nodes : List Node) :
    Sliced starts scope nodes := by
  induction scope, nodes using renderNodes.induct with
  | case1 scope => exact Sliced.nil scope
  | case2 scope s rest ih => exact ih.text hstarts s
  | case3 scope e rest ih => exact ih.print e
  | case4 scope n e rest ih => exact Sliced.assign ih
  | case5 scope c body otherwise rest ih hbody hotherwise => exact Sliced.when hbody hotherwise ih
  | case6 scope n source body otherwise rest ih hotherwise hbody => exact Sliced.forEach hbody hotherwise ih
  | case7 scope k v source only body rest hbody ih => exact Sliced.forEntries hbody ih

namespace SlicesTo

variable {env : Env} {template residual : Template}

lemma intro {chars : List (List Char)}
    (hchars : List.Forall₂ (fun s cs => s = String.ofList cs) (texts template) chars)
    (h : slice starts env (.begun []) [] chars template = some (residual, .begun [], [])) :
    SlicesTo starts env template residual :=
  ⟨chars, hchars, h⟩

lemma exists_render (h : SlicesTo starts env template residual) (hstarts : startsWithOne starts [] = false)
    {scope : Scope} {text : String} (hs : FitsScope env scope) (ht : renderNodes scope template = .ok text) :
    ∃ kept, renderNodes scope residual = .ok kept ∧
    lines kept = (lines text).filter (startsWithOne starts) := by
  obtain ⟨chars, -, h⟩ := h
  have hbegun : Midline starts env scope (.begun []) [] [] :=
    .ofSettled hs rfl ⟨rfl, hstarts⟩ List.not_mem_nil
  obtain ⟨kept, hk, -, hlines⟩ := sliced hstarts scope template hbegun h ht
  exact ⟨kept, hk, congrArg Prod.fst hlines⟩

end SlicesTo

end ApiScaffold.Template
