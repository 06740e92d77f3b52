import ApiScaffold.Proofs.Except
import ApiScaffold.Template.Render

namespace ApiScaffold.Template

open Chain

lemma renderNodes_nil_eq {scope : Scope} {nodes : List Node} {text : String} (hn : nodes.isEmpty)
    (h : renderNodes scope nodes = .ok text) : text = "" := by
  rw [List.isEmpty_iff] at hn
  subst hn
  rw [renderNodes] at h
  exact (Except.ok.inj h).symm

def loopText (scope : Scope) (n : String) (items : List Data) (body otherwise : List Node) :
    Except Fault String :=
  if items.isEmpty then renderNodes scope otherwise
  else String.join <$> (withLast items).mapM fun x =>
    renderNodes ((scope.bind "loop" (loopData x.2)).bind n x.1) body

lemma renderNodes_forEach {scope : Scope} {source : Expr} {items : List Data}
    (h : source.data scope = .ok (.list items)) (n : String) (body otherwise rest : List Node) :
    renderNodes scope (.forEach n source body otherwise :: rest) =
      loopText scope n items body otherwise >>= fun t => (t ++ ·) <$> renderNodes scope rest := by
  rw [renderNodes, h, loopText]
  simp only [iterate, ok_bind]
  split
  · simp [Functor.map, Except.map, bind, Except.bind]
  · rfl

lemma withLast_map {α β : Type} (f : α → β) (items : List α) :
    withLast (items.map f) = (withLast items).map fun x => (f x.1, x.2) := by
  induction items with
  | nil => rfl
  | cons x rest ih => rw [List.map_cons, withLast, ih, List.isEmpty_map, withLast, List.map_cons]

lemma mem_of_mem_withLast {α : Type} {items : List α} {x : α × Bool} (h : x ∈ withLast items) :
    x.1 ∈ items := by
  induction items with
  | nil => simp [withLast] at h
  | cons y rest ih =>
    simp only [withLast, List.mem_cons] at h
    rcases h with rfl | h
    · exact List.mem_cons_self
    · exact List.mem_cons_of_mem y (ih h)

lemma mapM_withLast {α β γ ε : Type} {f : α → β} {g : α × Bool → γ} {step : β × Bool → Except ε γ}
    {items : List α} (h : ∀ x ∈ items, ∀ last, step (f x, last) = .ok (g (x, last))) :
    (withLast (items.map f)).mapM step = .ok ((withLast items).map g) := by
  rw [withLast_map, List.mapM_map]
  exact mapM_eq_pure fun x hx => h x.1 (mem_of_mem_withLast hx) x.2

lemma map_withLast {α γ : Type} (g : α → γ) (items : List α) :
    ((withLast items).map fun x => g x.1) = items.map g := by
  induction items with
  | nil => rfl
  | cons x rest ih => rw [withLast, List.map_cons, ih, List.map_cons]

lemma renderNodes_loop_last {α : Type} {scope : Scope} {n : String} {source : Expr}
    {items : List α} {f : α → Data}
    {g : α × Bool → String} {body : List Node} (hsource : source.data scope = .ok (.list (items.map f)))
    (h : ∀ x ∈ items, ∀ last,
      renderNodes ((scope.bind "loop" (loopData last)).bind n (f x)) body = .ok (g (x, last))) :
    renderNodes scope [.forEach n source body []] = .ok (String.join ((withLast items).map g)) := by
  have htext : loopText scope n (items.map f) body [] = .ok (String.join ((withLast items).map g)) := by
    cases items with
    | nil => simp [loopText, renderNodes, withLast]
    | cons x rest => rw [loopText, mapM_withLast (f := f) (g := g) h]; rfl
  rw [renderNodes_forEach hsource, htext, renderNodes]
  simp

lemma renderNodes_loop {α : Type} {scope : Scope} {n : String} {source : Expr} {items : List α} {f : α → Data}
    {g : α → String} {body : List Node} (hsource : source.data scope = .ok (.list (items.map f)))
    (h : ∀ x ∈ items, ∀ last,
      renderNodes ((scope.bind "loop" (loopData last)).bind n (f x)) body = .ok (g x)) :
    renderNodes scope [.forEach n source body []] = .ok (String.join (items.map g)) := by
  rw [renderNodes_loop_last (g := fun x => g x.1) hsource h, map_withLast]

def entryText (scope : Scope) (k v : String) (only : Expr) (body : List Node) (entry : String × Data) :
    Except Fault String := do
  let inner := (scope.bind k (.string entry.1)).bind v entry.2
  if (← only.data inner).truthy then renderNodes inner body else return ""

lemma renderNodes_forEntries {scope : Scope} {source : Expr} {items : List (String × Data)}
    (h : source.data scope = .ok (.map items)) (k v : String) (only : Expr) (body rest : List Node) :
    renderNodes scope (.forEntries k v source only body :: rest) =
      items.mapM (entryText scope k v only body) >>= fun texts =>
      (String.join texts ++ ·) <$> renderNodes scope rest := by
  rw [renderNodes, h]
  rfl

lemma join_mapM_nil {α : Type} {f : α → Except Fault String} (h : ∀ x t, f x = .ok t → t = "")
    {items : List α} {texts : List String} (ht : items.mapM f = .ok texts) : String.join texts = "" := by
  induction items generalizing texts with
  | nil =>
    cases ht
    rfl
  | cons x rest ih =>
    rw [List.mapM_cons] at ht
    obtain ⟨t, hx, ht⟩ := bind_eq_ok.mp ht
    obtain ⟨ts, hrest, ht⟩ := bind_eq_ok.mp ht
    cases ht
    rw [String.join_cons, h x t hx, ih hrest]
    rfl

lemma loopText_nil {scope : Scope} {n : String} {items : List Data} {t : String}
    (h : loopText scope n items [] [] = .ok t) : t = "" := by
  unfold loopText at h
  split at h
  · exact renderNodes_nil_eq rfl h
  · obtain ⟨texts, htexts, rfl⟩ := map_eq_ok.mp h
    exact join_mapM_nil (fun x t => renderNodes_nil_eq rfl) htexts

lemma join_entryText_nil {scope : Scope} {k v : String} {only : Expr} {items : List (String × Data)}
    {texts : List String} (h : items.mapM (entryText scope k v only []) = .ok texts) :
    String.join texts = "" := by
  refine join_mapM_nil (fun x t ht => ?_) h
  obtain ⟨b, -, ht⟩ := bind_eq_ok.mp ht
  split at ht
  · exact renderNodes_nil_eq rfl ht
  · cases ht
    rfl

lemma exists_mem_withLast {α : Type} {items : List α} {x : α} (h : x ∈ items) :
    ∃ last, (x, last) ∈ withLast items := by
  induction items with
  | nil => cases h
  | cons y rest ih =>
    rcases List.mem_cons.mp h with rfl | h
    · exact ⟨_, List.mem_cons_self⟩
    · obtain ⟨last, hlast⟩ := ih h
      exact ⟨last, List.mem_cons_of_mem _ hlast⟩

lemma exists_of_loopText {scope : Scope} {n : String} {items : List Data}
    {body otherwise : List Node} {text : String}
    (h : loopText scope n items body otherwise = .ok text) {item : Data} (hitem : item ∈ items) :
    ∃ last t, renderNodes ((scope.bind "loop" (loopData last)).bind n item) body = .ok t := by
  obtain ⟨last, hlast⟩ := exists_mem_withLast hitem
  rw [loopText, if_neg (by simpa using List.ne_nil_of_mem hitem)] at h
  obtain ⟨texts, htexts, -⟩ := map_eq_ok.mp h
  exact ⟨last, exists_ok_of_mapM htexts hlast⟩

def Node.binds : Node → Bool
  | .assign _ _ => true
  | _ => false

lemma renderNodes_cons {node : Node} (hn : !node.binds) (scope : Scope) (rest : List Node) :
    renderNodes scope (node :: rest) = renderNodes scope [node] >>= fun t =>
    (t ++ ·) <$> renderNodes scope rest := by
  cases node with
  | text s => simp [renderNodes, map_eq_bind]
  | print e => simp [renderNodes, map_eq_bind]
  | assign n e => simp [Node.binds] at hn
  | when c body otherwise =>
    simp only [renderNodes, map_eq_bind, bind_assoc, pure_eq_ok, ok_bind, String.append_empty]
    congr 1
    funext b
    cases b <;> simp
  | forEach n source body otherwise =>
    simp only [renderNodes, map_eq_bind, bind_assoc, pure_eq_ok, ok_bind, String.append_empty]
    congr 1
    funext v
    congr 1
    funext items
    split <;> simp
  | forEntries k v source only body => simp [renderNodes, map_eq_bind]

lemma exists_of_when {scope : Scope} {c : Condition} {b : Bool}
    {body otherwise rest : List Node} {text : String}
    (hc : c.eval scope = .ok b) (h : renderNodes scope (.when c body otherwise :: rest) = .ok text) :
    ∃ t, renderNodes scope (if b then body else otherwise) = .ok t := by
  rw [renderNodes, hc, ok_bind] at h
  cases b with
  | false | true =>
    obtain ⟨t, ht, -⟩ := bind_eq_ok.mp h
    exact ⟨t, ht⟩

lemma renderNodes_append {nodes : List Node} (hn : nodes.all (!·.binds)) (scope : Scope) (rest : List Node) :
    renderNodes scope (nodes ++ rest) = renderNodes scope nodes >>= fun t =>
    (t ++ ·) <$> renderNodes scope rest := by
  induction nodes with
  | nil => simp [renderNodes]
  | cons node nodes ih =>
    rw [List.all_cons, Bool.and_eq_true] at hn
    rw [List.cons_append, renderNodes_cons hn.1, renderNodes_cons hn.1 scope nodes, ih hn.2]
    simp only [map_eq_bind, bind_assoc, ok_bind, String.append_assoc]

lemma renderNodes_ok_append {nodes rest : List Node} {scope : Scope} {t u : String}
    (h : renderNodes scope nodes = .ok t)
    (hrest : renderNodes scope rest = .ok u) (hn : nodes.all (!·.binds)) :
    renderNodes scope (nodes ++ rest) = .ok (t ++ u) := by
  rw [renderNodes_append hn, h, hrest]
  rfl

lemma exists_of_renderNodes_append {scope : Scope} {nodes rest : List Node}
    (hn : nodes.all (!·.binds)) {text : String}
    (h : renderNodes scope (nodes ++ rest) = .ok text) : ∃ t, renderNodes scope rest = .ok t := by
  rw [renderNodes_append hn] at h
  obtain ⟨t, -, h⟩ := bind_eq_ok.mp h
  obtain ⟨u, hu, -⟩ := map_eq_ok.mp h
  exact ⟨u, hu⟩

end ApiScaffold.Template
