import Mathlib.Tactic.Lemma

namespace ApiScaffold.Chain

variable {ε α β : Type}

@[simp] lemma ok_bind (a : α) (f : α → Except ε β) : (Except.ok a >>= f) = f a := rfl

@[simp] lemma error_bind (e : ε) (f : α → Except ε β) : (Except.error e >>= f) = .error e := rfl

@[simp] lemma pure_eq_ok (a : α) : (pure a : Except ε α) = .ok a := rfl

@[simp] lemma map_ok (f : α → β) (a : α) : f <$> (Except.ok a : Except ε α) = .ok (f a) := rfl

@[simp] lemma mapError_ok {ε' : Type} (f : ε → ε') (a : α) : (Except.ok a).mapError f = .ok a := rfl

@[simp] lemma mapError_error {ε' : Type} (f : ε → ε') (e : ε) :
    (Except.error e : Except ε α).mapError f = .error (f e) := rfl

lemma bind_eq_ok {x : Except ε α} {f : α → Except ε β} {b : β} :
    x >>= f = .ok b ↔ ∃ a, x = .ok a ∧ f a = .ok b := by
  cases x <;> simp

lemma eq_ok_of_toOption {x : Except ε α} {a : α} (h : x.toOption = some a) : x = .ok a := by
  cases x with
  | ok b => exact congrArg _ (Option.some.inj h)
  | error e => cases h

lemma map_eq_ok {f : α → β} {x : Except ε α} {b : β} : f <$> x = .ok b ↔ ∃ a, x = .ok a ∧ f a = b := by
  cases x <;> simp [Functor.map, Except.map]

lemma exists_ok_and_iff {x : Except ε α} {p : α → Prop} {refused holds : Prop}
    (hrefused : (∃ e, x = .error e) ↔ refused)
    (hholds : ∀ a, x = .ok a → (p a ↔ holds)) : (∃ a, x = .ok a ∧ p a) ↔ ¬refused ∧ holds := by
  rw [← hrefused]
  cases x with
  | error e => simp
  | ok a => simpa using hholds a rfl

lemma exists_error_iff_and_forall_ok {x : Except ε α} {refused : Prop} {p : α → Prop}
    (h : (refused ∧ ∃ e, x = .error e) ∨ ¬refused ∧ ∃ a, p a ∧ x = .ok a) :
    ((∃ e, x = .error e) ↔ refused) ∧ ∀ a, x = .ok a → p a := by
  rcases h with ⟨hrefused, e, rfl⟩ | ⟨hnot, a, ha, rfl⟩
  · simp [hrefused]
  · simp [hnot, ha]

lemma map_eq_bind (f : α → β) (x : Except ε α) : f <$> x = x >>= fun a => .ok (f a) := by
  cases x <;> rfl

lemma mapM_eq_pure {m : Type → Type} [Monad m] [LawfulMonad m] {f : α → m β} {g : α → β} {items : List α}
    (h : ∀ x ∈ items, f x = pure (g x)) : items.mapM f = pure (items.map g) := by
  induction items with
  | nil => rfl
  | cons x rest ih =>
    rw [List.mapM_cons, h x List.mem_cons_self, ih fun y hy => h y (List.mem_cons_of_mem x hy),
      pure_bind, pure_bind]
    rfl

lemma mapM_some {f : α → Option β} {g : α → β} {items : List α} (h : ∀ x ∈ items, f x = some (g x)) :
    items.mapM f = some (items.map g) := mapM_eq_pure h

lemma exists_ok_of_mapM {f : α → Except ε β} {items : List α} {images : List β}
    (h : items.mapM f = .ok images) {x : α} (hx : x ∈ items) : ∃ y, f x = .ok y := by
  induction items generalizing images with
  | nil => simp at hx
  | cons a rest ih =>
    rw [List.mapM_cons] at h
    obtain ⟨b, hb, h⟩ := bind_eq_ok.mp h
    obtain ⟨bs, hbs, -⟩ := bind_eq_ok.mp h
    rcases List.mem_cons.mp hx with rfl | hx
    · exact ⟨b, hb⟩
    · exact ih hbs hx

lemma exists_bind {x : Except ε α} {f : α → Except ε β} (hx : ∃ a, x = .ok a) (hf : ∀ a, ∃ b, f a = .ok b) :
    ∃ b, x >>= f = .ok b := by
  obtain ⟨a, rfl⟩ := hx
  exact hf a

lemma exists_mapM {f : α → Except ε β} {items : List α} (h : ∀ x ∈ items, ∃ y, f x = .ok y) :
    ∃ images, items.mapM f = .ok images := by
  induction items with
  | nil => exact ⟨[], rfl⟩
  | cons x rest ih =>
    obtain ⟨y, hy⟩ := h x List.mem_cons_self
    obtain ⟨images, himages⟩ := ih fun z hz => h z (List.mem_cons_of_mem x hz)
    exact ⟨y :: images, by rw [List.mapM_cons, hy, himages]; rfl⟩

lemma forM_cons (f : α → Except ε Unit) (x : α) (rest : List α) :
    (x :: rest).forM f = f x >>= fun _ => rest.forM f := rfl

lemma forM_eq_ok {f : α → Except ε Unit} {items : List α} :
    items.forM f = .ok () ↔ ∀ x ∈ items, f x = .ok () := by
  induction items with
  | nil => simp [List.forM]
  | cons x rest ih =>
    rw [forM_cons, List.forall_mem_cons, ← ih, bind_eq_ok]
    constructor
    · rintro ⟨⟨⟩, hx, hrest⟩
      exact ⟨hx, hrest⟩
    · rintro ⟨hx, hrest⟩
      exact ⟨(), hx, hrest⟩

lemma forM_eq_error {f : α → Except ε Unit} {before after : List α} {x : α} {e : ε}
    (hbefore : ∀ y ∈ before, f y = .ok ()) (hx : f x = .error e) :
    (before ++ x :: after).forM f = .error e := by
  induction before with
  | nil => rw [List.nil_append, forM_cons, hx, error_bind]
  | cons y before ih =>
    obtain ⟨hy, hrest⟩ := List.forall_mem_cons.mp hbefore
    rw [List.cons_append, forM_cons, hy, ok_bind, ih hrest]

def fault? : Except ε α → Option ε
  | .ok _ => none
  | .error e => some e

lemma fault?_eq_some {x : Except ε α} {e : ε} : fault? x = some e ↔ x = .error e := by
  cases x <;> simp [fault?]

lemma mapM_id_eq_error {results : List (Except ε α)} {e : ε} :
    results.mapM id = .error e ↔ results.findSome? fault? = some e := by
  induction results with
  | nil => simp
  | cons x rest ih =>
    rw [List.mapM_cons, List.findSome?_cons]
    cases x with
    | ok a =>
      rw [fault?, ← ih, id, ok_bind]
      cases rest.mapM id <;> simp
    | error f => simp [fault?]

end ApiScaffold.Chain
