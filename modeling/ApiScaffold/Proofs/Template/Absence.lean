import ApiScaffold.Proofs.Assoc
import ApiScaffold.Proofs.Package.Shape
import ApiScaffold.Template.Catalogue

/-!
Rendering where names are missing. All that a template does with a value demands that it is there,
so with fewer names a template renders the same text, or faults on a value that is not there.
-/

namespace ApiScaffold.Template

open Chain

inductive Value.Within : Value → Value → Prop
  | same (v : Value) : Within v v
  | missing (u : Undefined) (v : Value) : Within (.undefined u) v

/--
What becomes of an outcome with fewer names: a result that is related to the one there was, the same
fault, or the fault of a value that is not there.
-/
inductive Lapsed {α : Type} (R : α → α → Prop) : Except Fault α → Except Fault α → Prop
  | ok {a b : α} : R a b → Lapsed R (.ok a) (.ok b)
  | error (fault : Fault) : Lapsed R (.error fault) (.error fault)
  | missing (u : Undefined) (y : Except Fault α) : Lapsed R (.error (.undefined u)) y

namespace Lapsed

variable {α β : Type} {R : α → α → Prop} {S : β → β → Prop} {x y : Except Fault α}

lemma refl (x : Except Fault α) : Lapsed Eq x x := by
  cases x with
  | ok a => exact .ok rfl
  | error fault => exact .error fault

lemma bind {f g : α → Except Fault β} (h : Lapsed R x y) (hf : ∀ a b, R a b → Lapsed S (f a) (g b)) :
    Lapsed S (x >>= f) (y >>= g) := by
  cases h with
  | ok hab => exact hf _ _ hab
  | error fault => exact .error fault
  | missing u y => exact .missing u _

lemma bind_eq {f g : α → Except Fault β} (h : Lapsed Eq x y) (hf : ∀ a, Lapsed S (f a) (g a)) :
    Lapsed S (x >>= f) (y >>= g) := by
  refine h.bind fun a b hab => ?_
  subst hab
  exact hf a

lemma map (h : Lapsed Eq x y) (f : α → β) : Lapsed Eq (f <$> x) (f <$> y) := by
  rw [map_eq_bind, map_eq_bind]
  exact h.bind_eq fun a => .refl _

lemma mapM {f g : α → Except Fault β} {items : List α} (h : ∀ x ∈ items, Lapsed Eq (f x) (g x)) :
    Lapsed Eq (items.mapM f) (items.mapM g) := by
  induction items with
  | nil => exact .refl _
  | cons x rest ih =>
    rw [List.mapM_cons, List.mapM_cons]
    refine (h x List.mem_cons_self).bind_eq fun y => ?_
    exact (ih fun z hz => h z (List.mem_cons_of_mem x hz)).bind_eq fun ys => .refl _

lemma eq_ok {a : α} (h : Lapsed Eq (.ok a) y) : y = .ok a := by
  cases h with
  | ok hab => exact congrArg _ hab.symm

lemma eq_or_missing {a : α} (h : Lapsed Eq x (.ok a)) : x = .ok a ∨ ∃ u, x = .error (.undefined u) := by
  cases h with
  | ok hab => exact .inl (congrArg _ hab)
  | missing u => exact .inr ⟨u, rfl⟩

end Lapsed

def Scope.Within (s t : Scope) : Prop := ∀ n, (s.value n).Within (t.value n)

lemma Value.Within.demand {v w : Value} (h : v.Within w) : Lapsed Eq v.demand w.demand := by
  cases h with
  | same v => exact .refl _
  | missing u v => exact .missing u _

lemma Value.Within.walk {v w : Value} (h : v.Within w) (attributes : List String) :
    Lapsed Value.Within (Expr.walk v attributes) (Expr.walk w attributes) := by
  induction attributes generalizing v w with
  | nil => exact .ok h
  | cons n rest ih => exact h.demand.bind_eq fun owner => ih (.same _)

namespace Scope.Within

variable {s t : Scope}

lemma cons (h : s.Within t) (n : String) {v w : Value} (hv : v.Within w) : Scope.Within ((n, v) :: s)
    ((n, w) :: t) := by
  intro m
  rw [Scope.value, Scope.value, Assoc.get?, Assoc.get?]
  split
  · exact hv
  · exact h m

lemma bind (h : s.Within t) (n : String) (v : Data) : (s.bind n v).Within (t.bind n v) := h.cons n (.same _)

lemma eval (h : s.Within t) (e : Expr) : Lapsed Value.Within (e.eval s) (e.eval t) := by
  induction e with
  | path root attributes => exact (h root).walk attributes
  | first e ih => exact ih.bind fun v w hv => hv.demand.bind_eq fun owner => .ok (.same _)
  | filtered f e ih =>
    refine ih.bind fun v w hv => hv.demand.bind_eq fun owner => ?_
    exact (Lapsed.refl (f.apply owner)).bind_eq fun value => .ok (.same _)

lemma data (h : s.Within t) (e : Expr) : Lapsed Eq (e.data s) (e.data t) :=
  (h.eval e).bind fun _ _ hv => hv.demand

lemma condition (h : s.Within t) (c : Condition) : Lapsed Eq (c.eval s) (c.eval t) := by
  cases c with
  | holds e | fails e | equals e text => exact (h.data e).bind_eq fun v => .refl _

lemma renderNodes (h : s.Within t) (nodes : List Node) :
    Lapsed Eq (Template.renderNodes s nodes) (Template.renderNodes t nodes) := by
  -- along the renderer, as a binding makes both scopes longer by the same name
  induction s, nodes using renderNodes.induct generalizing t with
  | case1 s =>
    rw [Template.renderNodes, Template.renderNodes]
    exact .refl _
  | case2 s text rest ih =>
    rw [Template.renderNodes, Template.renderNodes]
    exact (ih h).bind_eq fun after => .refl _
  | case3 s e rest ih =>
    rw [Template.renderNodes, Template.renderNodes]
    exact (h.data e).bind_eq fun v => (ih h).bind_eq fun after => .refl _
  | case4 s n e rest ih =>
    rw [Template.renderNodes, Template.renderNodes]
    exact (h.eval e).bind fun v w hv => ih v (h.cons n hv)
  | case5 s c body otherwise rest ihrest ihbody ihotherwise =>
    rw [Template.renderNodes, Template.renderNodes]
    refine (h.condition c).bind_eq fun b => ?_
    cases b with
    | false => exact (ihotherwise h).bind_eq fun text => (ihrest h).bind_eq fun after => .refl _
    | true => exact (ihbody h).bind_eq fun text => (ihrest h).bind_eq fun after => .refl _
  | case6 s n source body otherwise rest ihrest ihotherwise ihbody =>
    rw [Template.renderNodes, Template.renderNodes]
    refine (h.data source).bind_eq fun v => (Lapsed.refl (iterate v)).bind_eq fun items => ?_
    dsimp only
    split
    · exact (ihotherwise h).bind_eq fun text => (ihrest h).bind_eq fun after => .refl _
    · refine ((Lapsed.mapM fun x _ => ?_).map String.join).bind_eq fun text =>
        (ihrest h).bind_eq fun after => .refl _
      exact ihbody x.1 x.2 ((h.bind "loop" (loopData x.2)).bind n x.1)
  | case7 s k v source only body rest ihbody ihrest =>
    rw [Template.renderNodes, Template.renderNodes]
    refine (h.data source).bind_eq fun w => (Lapsed.refl (entries w)).bind_eq fun items => ?_
    refine (Lapsed.mapM fun x _ => ?_).bind_eq fun texts => (ihrest h).bind_eq fun after => .refl _
    have hinner := (h.bind k (.string x.1)).bind v x.2
    refine (hinner.data only).bind_eq fun b => ?_
    split
    · exact ihbody x.1 x.2 hinner
    · exact .refl _

end Scope.Within

variable {context wider : List (String × Data)} {template : Template} {text : String}

lemma value_ofContext (context : List (String × Data)) (n : String) :
    (Scope.ofContext context).value n =
      ((Assoc.get? n context).map Value.defined).getD (.undefined (.name n)) := by
  rw [Scope.value]
  congr 1
  induction context with
  | nil => rfl
  | cons entry rest ih =>
    rw [Scope.ofContext, List.map_cons, Assoc.get?, Assoc.get?]
    split
    · rfl
    · exact ih

lemma within_ofContext (h : ∀ n v, Assoc.get? n context = some v → Assoc.get? n wider = some v) :
    (Scope.ofContext context).Within (.ofContext wider) := by
  intro n
  rw [value_ofContext, value_ofContext]
  cases hn : Assoc.get? n context with
  | none => exact .missing _ _
  | some v =>
    rw [h n v hn]
    exact .same _

lemma render_of_notMem (h : "self" ∉ context.map Prod.fst) (template : Template) :
    render template context = renderNodes (.ofContext context) template := by
  have hnames : context.any (·.1 = "self") = false := by
    rw [List.any_eq_false]
    rintro entry hentry heq
    exact h (of_decide_eq_true heq ▸ List.mem_map_of_mem hentry)
  rw [render, hnames]
  rfl

lemma notMem_of_render (h : render template context = .ok text) : "self" ∉ context.map Prod.fst := by
  intro hmem
  obtain ⟨entry, hentry, heq⟩ := List.mem_map.mp hmem
  rw [render, if_pos (List.any_eq_true.mpr ⟨entry, hentry, decide_eq_true heq⟩)] at h
  cases h

lemma lapsed_render (h : ∀ n v, Assoc.get? n context = some v → Assoc.get? n wider = some v)
    (hcontext : "self" ∉ context.map Prod.fst) (hwider : "self" ∉ wider.map Prod.fst) (template : Template) :
    Lapsed Eq (render template context) (render template wider) := by
  rw [render_of_notMem hcontext, render_of_notMem hwider]
  exact (within_ofContext h).renderNodes template

lemma renderNamed_of_find? {root name : String} (h : find? root name = some template)
    (context : List (String × Data)) : renderNamed root name context = render template context := by
  rw [renderNamed, h]

/--
A missing name shows: a shipped template that renders in a context renders the same text without
some of its names, or faults on a value that is not there. With more names it renders the same text.
-/
theorem missing_names_show {root name : String} (h : renderNamed root name context = .ok text) :
    (∀ kept : String → Bool,
      let fewer := context.filter fun entry => kept entry.1
      renderNamed root name fewer = .ok text ∨ ∃ u, renderNamed root name fewer = .error (.undefined u)) ∧
    ∀ wider : List (String × Data), (∀ n v, Assoc.get? n context = some v → Assoc.get? n wider = some v) →
      "self" ∉ wider.map Prod.fst → renderNamed root name wider = .ok text := by
  cases hfind : find? root name with
  | none =>
    rw [renderNamed, hfind] at h
    cases h
  | some template =>
    simp only [renderNamed_of_find? hfind] at h ⊢
    have hself := notMem_of_render h
    refine ⟨fun kept => ?_, fun wider hnames hwider => ?_⟩
    · have hfewer : "self" ∉ (context.filter fun entry => kept entry.1).map Prod.fst :=
        fun hmem => hself ((List.filter_sublist.map Prod.fst).subset hmem)
      have hnames (n : String) (v : Data)
          (hn : Assoc.get? n (context.filter fun entry => kept entry.1) = some v) :
          Assoc.get? n context = some v := by
        rw [Assoc.get?_filter, Option.ite_none_right_eq_some] at hn
        exact hn.2
      have hlapsed := lapsed_render hnames hfewer hself template
      rw [h] at hlapsed
      exact hlapsed.eq_or_missing
    · have hlapsed := lapsed_render hnames hself hwider template
      rw [h] at hlapsed
      exact hlapsed.eq_ok

theorem missing_names_show_ports :
    let context := [("domains", Data.list [.map [("repository_name", .string "IUserRepository")]])]
    let text :=
      "export * from './pagination.js';\nexport * from './IServices.js';\nexport * from './IUserRepository.js';\n"
    renderNamed "" "core/ports_index.ts.j2" context = .ok text ∧
    renderNamed "" "core/ports_index.ts.j2" (("domain", .null) :: context) = .ok text ∧
    ∃ u, renderNamed "" "core/ports_index.ts.j2" (context.filter fun entry => entry.1 != "domains") =
      .error (.undefined u) := by
  intro context text
  have hfind : find? "" "core/ports_index.ts.j2" = some Core.portsIndex := rfl
  have hrender : render Core.portsIndex context = .ok ("export * from './pagination.js';\n" ++
      ("export * from './IServices.js';\n" ++
        (String.join ["export * from './" ++ ("IUserRepository" ++ (".js';\n" ++ ""))] ++ ""))) := by
    rw [render_of_notMem (by decide), Core.portsIndex]
    simp only [renderNodes, field]
    rfl
  have h : renderNamed "" "core/ports_index.ts.j2" context = .ok text := by
    rw [renderNamed_of_find? hfind, hrender]
    exact congrArg Except.ok (by decide +kernel)
  obtain ⟨hfewer, hwider⟩ := missing_names_show h
  refine ⟨h, hwider _ (fun n v hn => ?_) (by decide), (hfewer (· != "domains")).resolve_left fun hok => ?_⟩
  · obtain ⟨rfl, -⟩ : "domains" = n ∧ _ := by simpa [context, Assoc.get?] using hn
    exact hn
  · have hmissing : render Core.portsIndex [] = .error (.undefined (.name "domains")) := by cbv
    rw [renderNamed_of_find? hfind] at hok
    cases hmissing.symm.trans hok

end ApiScaffold.Template
