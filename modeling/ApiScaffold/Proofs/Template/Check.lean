import ApiScaffold.Proofs.Json.Quoted
import ApiScaffold.Proofs.Template.Render
import ApiScaffold.Proofs.Template.Shape

/-!
A check of templates against the shapes of their scope. A checked template faults at most where it
asks an empty list for its first item, and only if the check was told to be lax about that.
-/

namespace ApiScaffold.Template

open Chain

def Filter.shape? (f : Filter) (s : Shape) : Option Shape :=
  match f, s with
  | .quoted, _ => some .line
  | .lowered, .word | .capitalized, .word => some .word
  | .lowered, _ => some .text
  | .capitalized, s => if s.isText then some .text else none

def Expr.shape? (env : Env) : Expr → Option Shape
  | .path root attributes => (Assoc.get? root env).bind (·.walk attributes)
  | .first e => (e.shape? env).bind Shape.item?
  | .filtered f e => (e.shape? env).bind f.shape?

namespace Expr

lemma data_path (scope : Scope) (root : String) (attributes : List String) :
    (Expr.path root attributes).data scope = walk (scope.value root) attributes >>= Value.demand := rfl

lemma data_first (scope : Scope) (e : Expr) :
    (Expr.first e).data scope = e.data scope >>= fun v => (Value.ofFirst v).demand := by
  simp only [data, eval, bind_assoc, pure_bind]

lemma data_filtered (scope : Scope) (f : Filter) (e : Expr) :
    (Expr.filtered f e).data scope = e.data scope >>= f.apply := by
  simp only [data, eval, bind_assoc, pure_bind, Value.demand]
  congr 1
  funext v
  congr 1
  funext w
  cases f.apply w <;> rfl

lemma eval_of_data {scope : Scope} {e : Expr} {v : Data} (h : e.data scope = .ok v) :
    e.eval scope = .ok (.defined v) := by
  obtain ⟨value, hv, hd⟩ := bind_eq_ok.mp h
  cases value with
  | defined w =>
    simp only [Value.demand, Except.ok.injEq] at hd
    rw [hv, hd]
  | undefined u => simp [Value.demand] at hd

end Expr

lemma notMem_quote (s : String) : '\n' ∉ (Literal.quote s).toList := by
  have hescape (c : Char) : '\n' ∉ Literal.escape c := by
    unfold Literal.escape
    split
    · decide
    · split
      · decide
      · exact Json.notMem_escapeAscii c
  simp [Literal.quote, hescape]

lemma Filter.fits_apply {f : Filter} {s t : Shape} {v w : Data} (hv : Fits s v) (ht : f.shape? s = some t)
    (hw : f.apply v = .ok w) : Fits t w := by
  cases f with
  | quoted =>
    cases hw
    cases ht
    exact .line (notMem_quote _)
  | lowered =>
    cases hw
    cases hv <;> cases ht <;> first
      | exact .text _
      | exact .word (Text.isWord_lower (by assumption))
  | capitalized =>
    cases hv <;> simp only [Filter.shape?, Shape.isText, if_true, Bool.false_eq_true, if_false,
      Option.some.injEq, reduceCtorEq] at ht
    all_goals
      subst ht
      cases hw
      first
        | exact .text _
        | exact .word (Text.isWord_capitalize (by assumption))

lemma Filter.apply_ok {f : Filter} {s t : Shape} {v : Data} (hv : Fits s v) (ht : f.shape? s = some t) :
    ∃ w, f.apply v = .ok w := by
  cases f with
  | quoted | lowered => exact ⟨_, rfl⟩
  | capitalized =>
    have hs : s.isText := by
      cases s <;> simp_all [Filter.shape?, Shape.isText]
    obtain ⟨u, rfl⟩ := hv.string hs
    exact ⟨_, rfl⟩

lemma fits_first {s t : Shape} {v w : Data} (hv : Fits s v) (ht : s.item? = some t)
    (hw : (Value.ofFirst v).demand = .ok w) : Fits t w := by
  obtain ⟨items, rfl, hitems⟩ := hv.items ht
  cases items with
  | nil => simp [Value.ofFirst, Value.demand] at hw
  | cons x rest =>
    cases hw
    exact hitems _ List.mem_cons_self

lemma Expr.fits_data {env : Env} {scope : Scope} {e : Expr} {s : Shape} {v : Data} (hs : FitsScope env scope)
    (h : e.shape? env = some s) (hv : e.data scope = .ok v) : Fits s v := by
  induction e generalizing s v with
  | path root attributes =>
    obtain ⟨t, ht, hwalk⟩ := Option.bind_eq_some_iff.mp h
    obtain ⟨w, hw, hfit⟩ := hs root t ht
    obtain ⟨x, hx, hxs⟩ := hfit.walk hwalk
    rw [data_path, hw, hx] at hv
    cases hv
    exact hxs
  | first e ih =>
    obtain ⟨t, ht, hitem⟩ := Option.bind_eq_some_iff.mp h
    rw [data_first] at hv
    obtain ⟨w, hw, hfirst⟩ := bind_eq_ok.mp hv
    exact fits_first (ih ht hw) hitem hfirst
  | filtered f e ih =>
    obtain ⟨t, ht, hf⟩ := Option.bind_eq_some_iff.mp h
    rw [data_filtered] at hv
    obtain ⟨w, hw, happly⟩ := bind_eq_ok.mp hv
    exact Filter.fits_apply (ih ht hw) hf happly

def emptyList : Fault := .undefined (.element (.list []))

def Harmless {α : Type} (lax : Bool) (r : Except Fault α) : Prop :=
  ∀ fault, r = .error fault → lax ∧ fault = emptyList

namespace Harmless

variable {α β : Type} {lax : Bool}

lemma ok (a : α) : Harmless lax (.ok a : Except Fault α) := by
  intro fault h
  cases h

lemma bind {x : Except Fault α} {f : α → Except Fault β} (hx : Harmless lax x)
    (hf : ∀ a, x = .ok a → Harmless lax (f a)) : Harmless lax (x >>= f) := by
  cases x with
  | ok a => exact hf a rfl
  | error e =>
    intro fault h
    cases h
    exact hx _ rfl

lemma map {x : Except Fault α} (f : α → β) (hx : Harmless lax x) : Harmless lax (f <$> x) := by
  cases x with
  | ok a => exact ok (f a)
  | error e =>
    intro fault h
    cases h
    exact hx _ rfl

lemma mapM {f : α → Except Fault β} {items : List α} (h : ∀ x ∈ items, Harmless lax (f x)) :
    Harmless lax (items.mapM f) := by
  induction items with
  | nil => exact ok []
  | cons x rest ih =>
    rw [List.mapM_cons]
    refine (h x (by simp)).bind fun y _ => ?_
    refine (ih fun z hz => h z (List.mem_cons_of_mem x hz)).bind fun ys _ => ?_
    exact ok (y :: ys)

lemma exists_ok {x : Except Fault α} (h : Harmless false x) : ∃ a, x = .ok a := by
  cases x with
  | ok a => exact ⟨a, rfl⟩
  | error e => exact absurd (h e rfl).1 Bool.false_ne_true

end Harmless

namespace Expr

def safe (lax : Bool) (env : Env) : Expr → Bool
  | e@(.path _ _) => (e.shape? env).isSome
  | .first e =>
    e.safe lax env && match e.shape? env with
      | some (.nonempty _) => true
      | some (.list _) => lax
      | _ => false
  | .filtered f e => e.safe lax env && ((Expr.filtered f e).shape? env).isSome

lemma harmless_first_nonempty {lax : Bool} {item : Shape} {v : Data} (h : Fits (.nonempty item) v) :
    Harmless lax (Value.ofFirst v).demand := by
  cases h with
  | nonempty hne hitems =>
    obtain ⟨x, rest, rfl⟩ := List.exists_cons_of_ne_nil hne
    exact .ok x

lemma harmless_first_list {item : Shape} {v : Data} (h : Fits (.list item) v) :
    Harmless true (Value.ofFirst v).demand := by
  cases h with
  | @list item items hitems =>
    cases items with
    | nil =>
      intro fault hfault
      cases hfault
      exact ⟨rfl, rfl⟩
    | cons x rest => exact .ok x

lemma harmless_data {lax : Bool} {env : Env} {scope : Scope} {e : Expr} (hs : FitsScope env scope)
    (h : e.safe lax env) : Harmless lax (e.data scope) := by
  induction e with
  | path root attributes =>
    obtain ⟨s, h⟩ := Option.isSome_iff_exists.mp h
    obtain ⟨t, ht, hwalk⟩ := Option.bind_eq_some_iff.mp h
    obtain ⟨w, hw, hfit⟩ := hs root t ht
    obtain ⟨x, hx, -⟩ := hfit.walk hwalk
    rw [data_path, hw, hx]
    exact .ok x
  | first e ih =>
    simp only [safe, Bool.and_eq_true] at h
    rw [data_first]
    refine (ih h.1).bind fun v hv => ?_
    cases hshape : e.shape? env with
    | none => simp [hshape] at h
    | some s =>
      have hfit := fits_data hs hshape hv
      rw [hshape] at h
      cases s with
      | nonempty item => exact harmless_first_nonempty hfit
      | list item =>
        obtain rfl : lax = true := h.2
        exact harmless_first_list hfit
      | _ => simp at h
  | filtered f e ih =>
    simp only [safe, Bool.and_eq_true] at h
    rw [data_filtered]
    refine (ih h.1).bind fun v hv => ?_
    obtain ⟨t, ht⟩ := Option.isSome_iff_exists.mp h.2
    obtain ⟨s, hs', hf⟩ := Option.bind_eq_some_iff.mp ht
    obtain ⟨w, hw⟩ := Filter.apply_ok (fits_data hs hs' hv) hf
    rw [hw]
    exact .ok w

end Expr

namespace Condition

def safe (lax : Bool) (env : Env) : Condition → Bool
  | holds e | fails e | equals e _ => e.safe lax env

def verdict? (env : Env) : Condition → Option Bool
  | equals e text =>
    match e.shape? env with
    | some (.constant s) => some (s == text)
    | _ => none
  | _ => none

lemma harmless_eval {lax : Bool} {env : Env} {scope : Scope} {c : Condition} (hs : FitsScope env scope)
    (h : c.safe lax env) : Harmless lax (c.eval scope) := by
  cases c with
  | holds e | fails e => exact (e.harmless_data hs h).bind fun v _ => .ok _
  | equals e text =>
    refine (e.harmless_data hs h).bind fun v _ => ?_
    cases v <;> exact .ok _

lemma eval_eq_verdict {env : Env} {scope : Scope} {c : Condition} {b b' : Bool} (hs : FitsScope env scope)
    (h : c.verdict? env = some b) (hb : c.eval scope = .ok b') : b' = b := by
  cases c with
  | holds e | fails e => simp [verdict?] at h
  | equals e text =>
    obtain ⟨v, hv, hb⟩ := bind_eq_ok.mp hb
    simp only [verdict?] at h
    split at h
    · rename_i s hshape
      cases e.fits_data hs hshape hv
      cases hb
      exact Option.some.inj h
    · simp at h

end Condition

def loopShape : Shape := .record [("last", .any)]

lemma fits_loopData (last : Bool) : Fits loopShape (loopData last) := .field (.any _) .empty

/-- Checks a template in a scope of the given shapes. A loop over tagged records is checked for each tag. -/
def check (lax : Bool) (env : Env) : List Node → Bool
  | [] => true
  | .text _ :: rest => check lax env rest
  | .print e :: rest => e.safe lax env && check lax env rest
  | .assign n e :: rest =>
    match e.shape? env with
    | some s => e.safe false env && check lax ((n, s) :: env) rest
    | none => false
  | .when c body otherwise :: rest =>
    c.safe lax env && check lax env rest && match c.verdict? env with
      | some true => check lax env body
      | some false => check lax env otherwise
      | none => check lax env body && check lax env otherwise
  | .forEach n source body otherwise :: rest =>
    source.safe lax env && check lax env otherwise && check lax env rest &&
      match (source.shape? env).bind Shape.item? with
      | some item => item.options.all fun s => check lax ((n, s) :: ("loop", loopShape) :: env) body
      | none => false
  | .forEntries k v source only body :: rest =>
    source.safe lax env && check lax env rest && match source.shape? env with
      | some (.table key value) =>
        only.safe lax ((v, value) :: (k, key) :: env) && check lax ((v, value) :: (k, key) :: env) body
      | _ => false

def Checked (scope : Scope) (nodes : List Node) : Prop :=
  ∀ {lax : Bool} {env : Env}, FitsScope env scope → check lax env nodes →
    Harmless lax (renderNodes scope nodes)

namespace Checked

variable {scope : Scope} {rest : List Node}

lemma nil (scope : Scope) : Checked scope [] := by
  intro lax env hs h
  rw [renderNodes]
  exact .ok ""

lemma text (ih : Checked scope rest) (s : String) : Checked scope (.text s :: rest) := by
  intro lax env hs h
  rw [check] at h
  rw [renderNodes]
  exact (ih hs h).bind fun t _ => .ok _

lemma print (ih : Checked scope rest) (e : Expr) : Checked scope (.print e :: rest) := by
  intro lax env hs h
  simp only [check, Bool.and_eq_true] at h
  rw [renderNodes]
  exact (e.harmless_data hs h.1).bind fun v _ => (ih hs h.2).bind fun t _ => .ok _

lemma assign {n : String} {e : Expr} (ih : ∀ value, Checked ((n, value) :: scope) rest) :
    Checked scope (.assign n e :: rest) := by
  intro lax env hs h
  simp only [check] at h
  split at h
  · rename_i s hshape
    rw [Bool.and_eq_true] at h
    -- A binding is checked strictly, so that a value is bound.
    obtain ⟨v, hv⟩ := (e.harmless_data hs h.1).exists_ok
    have hfit := e.fits_data hs hshape hv
    simp only [renderNodes, Expr.eval_of_data hv, ok_bind]
    exact ih _ (hs.bind hfit) h.2
  · simp at h

lemma when {c : Condition} {body otherwise : List Node} (hbody : Checked scope body)
    (hotherwise : Checked scope otherwise) (ih : Checked scope rest) :
    Checked scope (.when c body otherwise :: rest) := by
  intro lax env hs h
  simp only [check, Bool.and_eq_true] at h
  obtain ⟨⟨hcondition, hrest⟩, hbranches⟩ := h
  rw [renderNodes]
  refine (c.harmless_eval hs hcondition).bind fun b hb => ?_
  have hbranch : Harmless lax (if b then renderNodes scope body else renderNodes scope otherwise) := by
    cases hv : c.verdict? env with
    | none =>
      simp only [hv, Bool.and_eq_true] at hbranches
      cases b with
      | false => exact hotherwise hs hbranches.2
      | true => exact hbody hs hbranches.1
    | some verdict =>
      -- Only the branch that is taken has to be checked.
      obtain rfl := c.eval_eq_verdict hs hv hb
      rw [hv] at hbranches
      cases b with
      | false => exact hotherwise hs hbranches
      | true => exact hbody hs hbranches
  cases b with
  | false | true => exact hbranch.bind fun t _ => (ih hs hrest).bind fun u _ => .ok _

lemma forEach {n : String} {source : Expr} {body otherwise : List Node}
    (hbody : ∀ item last, Checked ((scope.bind "loop" (loopData last)).bind n item) body)
    (hotherwise : Checked scope otherwise) (ih : Checked scope rest) :
    Checked scope (.forEach n source body otherwise :: rest) := by
  intro lax env hs h
  simp only [check, Bool.and_eq_true] at h
  obtain ⟨⟨⟨hsource, hcheckOtherwise⟩, hrest⟩, hcheckBody⟩ := h
  split at hcheckBody
  · rename_i item hitem
    obtain ⟨shape, hshape, hitem⟩ := Option.bind_eq_some_iff.mp hitem
    rw [renderNodes]
    refine (source.harmless_data hs hsource).bind fun v hv => ?_
    obtain ⟨items, rfl, hitems⟩ := (source.fits_data hs hshape hv).items hitem
    refine (Harmless.ok items).bind fun items' hi => ?_
    obtain rfl := Except.ok.inj hi
    have hloop : Harmless lax ((withLast items).mapM fun x =>
        renderNodes ((scope.bind "loop" (loopData x.2)).bind n x.1) body) := by
      refine .mapM fun x hx => ?_
      obtain ⟨option, hoption, hfit⟩ := (hitems x.1 (mem_of_mem_withLast hx)).exists_option
      exact hbody x.1 x.2 ((hs.bind (fits_loopData x.2)).bind hfit)
        (List.all_eq_true.mp hcheckBody option hoption)
    dsimp only
    split
    · exact (hotherwise hs hcheckOtherwise).bind fun t _ => (ih hs hrest).bind fun u _ => .ok _
    · exact (hloop.map _).bind fun t _ => (ih hs hrest).bind fun u _ => .ok _
  · simp at hcheckBody

lemma forEntries {k v : String} {source only : Expr} {body : List Node}
    (hbody : ∀ (key : String) (item : Data), Checked ((scope.bind k (.string key)).bind v item) body)
    (ih : Checked scope rest) : Checked scope (.forEntries k v source only body :: rest) := by
  intro lax env hs h
  simp only [check, Bool.and_eq_true] at h
  obtain ⟨⟨hsource, hrest⟩, hcheckBody⟩ := h
  split at hcheckBody
  · rename_i key value hshape
    rw [Bool.and_eq_true] at hcheckBody
    rw [renderNodes]
    refine (source.harmless_data hs hsource).bind fun w hw => ?_
    cases source.fits_data hs hshape hw with
    | @table _ _ items hkeys hvalues =>
      refine (Harmless.ok items).bind fun items' hi => ?_
      obtain rfl := Except.ok.inj hi
      refine (Harmless.mapM fun x hx => ?_).bind fun texts _ => (ih hs hrest).bind fun t _ => .ok _
      have hinner := (hs.bind (n := k) (hkeys x hx)).bind (n := v) (hvalues x hx)
      refine (only.harmless_data hinner hcheckBody.1).bind fun b _ => ?_
      split
      · exact hbody x.1 x.2 hinner hcheckBody.2
      · exact .ok ""
  · simp at hcheckBody

end Checked

lemma checked (scope : Scope) (nodes : List Node) : Checked scope nodes := by
  induction scope, nodes using renderNodes.induct with
  | case1 scope => exact Checked.nil scope
  | case2 scope s rest ih => exact ih.text s
  | case3 scope e rest ih => exact ih.print e
  | case4 scope n e rest ih => exact Checked.assign ih
  | case5 scope c body otherwise rest ih hbody hotherwise => exact Checked.when hbody hotherwise ih
  | case6 scope n source body otherwise rest ih hotherwise hbody => exact Checked.forEach hbody hotherwise ih
  | case7 scope k v source only body rest hbody ih => exact Checked.forEntries hbody ih

end ApiScaffold.Template
