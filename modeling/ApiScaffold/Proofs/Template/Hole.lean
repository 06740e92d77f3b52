import ApiScaffold.Proofs.Assoc
import ApiScaffold.Proofs.Template.Check
import ApiScaffold.Proofs.Template.Render

/-!
Templates whose text is the same in all scopes but for some names. Nodes that do not start from these names
render alike; a template that else only prints them is sketched once, with holes for their values.
-/

namespace ApiScaffold.Template

open Chain

def Expr.root : Expr → String
  | .path root _ => root
  | .first e | .filtered _ e => e.root

def Condition.root : Condition → String
  | .holds e | .fails e | .equals e _ => e.root

def avoids (names : List String) : List Node → Bool
  | [] => true
  | .text _ :: rest => avoids names rest
  | .print e :: rest | .assign _ e :: rest => e.root ∉ names && avoids names rest
  | .when condition body otherwise :: rest =>
    condition.root ∉ names && avoids names body && avoids names otherwise && avoids names rest
  | .forEach _ source body otherwise :: rest =>
    source.root ∉ names && avoids names body && avoids names otherwise && avoids names rest
  | .forEntries _ _ source only body :: rest =>
    source.root ∉ names && only.root ∉ names && avoids names body && avoids names rest

def SameBut (names : List String) (s t : Scope) : Prop := ∀ n ∉ names, s.value n = t.value n

namespace SameBut

variable {names : List String} {s t : Scope}

lemma cons (h : SameBut names s t) (binding : String × Value) : SameBut names (binding :: s)
    (binding :: t) := by
  intro n hn
  rw [Scope.value, Scope.value, Assoc.get?, Assoc.get?]
  split
  · rfl
  · exact h n hn

lemma append (h : SameBut names s t) (inner : Scope) : SameBut names (inner ++ s) (inner ++ t) := by
  induction inner with
  | nil => exact h
  | cons binding rest ih => exact ih.cons binding

lemma of_append (hs : s.map Prod.fst = names) (ht : t.map Prod.fst = names) (outer : Scope) :
    SameBut names (s ++ outer) (t ++ outer) := by
  intro n hn
  rw [Scope.value, Scope.value, Assoc.get?_append_of_notMem (hs ▸ hn), Assoc.get?_append_of_notMem (ht ▸ hn)]

lemma eval {e : Expr} (h : SameBut names s t) (he : e.root ∉ names) : e.eval s = e.eval t := by
  induction e with
  | path root attributes => rw [Expr.eval, Expr.eval, h root he]
  | first e ih | filtered f e ih => rw [Expr.eval, Expr.eval, ih he]

lemma data {e : Expr} (h : SameBut names s t) (he : e.root ∉ names) : e.data s = e.data t := by
  rw [Expr.data, Expr.data, h.eval he]

lemma condition {c : Condition} (h : SameBut names s t) (hc : c.root ∉ names) : c.eval s = c.eval t := by
  cases c with
  | holds e | fails e | equals e _ => rw [Condition.eval, Condition.eval, h.data hc]

lemma renderNodes {nodes : List Node} (h : SameBut names s t) (hn : avoids names nodes) :
    renderNodes s nodes = renderNodes t nodes := by
  fun_induction avoids names nodes generalizing s t with
  | case1 => rw [Template.renderNodes, Template.renderNodes]
  | case2 text rest ih => rw [Template.renderNodes, Template.renderNodes, ih h hn]
  | case3 e rest ih =>
    simp only [Bool.and_eq_true, decide_eq_true_eq] at hn
    rw [Template.renderNodes, Template.renderNodes, h.data hn.1, ih h hn.2]
  | case4 name e rest ih =>
    simp only [Bool.and_eq_true, decide_eq_true_eq] at hn
    simp only [Template.renderNodes, h.eval hn.1]
    congr 1
    funext v
    exact ih (h.cons (name, v)) hn.2
  | case5 condition body otherwise rest ihbody ihotherwise ihrest =>
    simp only [Bool.and_eq_true, decide_eq_true_eq] at hn
    obtain ⟨⟨⟨hcondition, hbody⟩, hotherwise⟩, hrest⟩ := hn
    simp only [Template.renderNodes, h.condition hcondition, ihbody h hbody,
      ihotherwise h hotherwise, ihrest h hrest]
  | case6 name source body otherwise rest ihbody ihotherwise ihrest =>
    simp only [Bool.and_eq_true, decide_eq_true_eq] at hn
    obtain ⟨⟨⟨hsource, hbody⟩, hotherwise⟩, hrest⟩ := hn
    have hitem (item : Data) (last : Bool) :
        Template.renderNodes ((s.bind "loop" (loopData last)).bind name item) body =
          Template.renderNodes ((t.bind "loop" (loopData last)).bind name item) body :=
      ihbody ((h.cons _).cons _) hbody
    simp only [Template.renderNodes, h.data hsource, hitem, ihotherwise h hotherwise, ihrest h hrest]
  | case7 key value source only body rest ihbody ihrest =>
    simp only [Bool.and_eq_true, decide_eq_true_eq] at hn
    obtain ⟨⟨⟨hsource, honly⟩, hbody⟩, hrest⟩ := hn
    have hentry (k : String) (v : Data) : Template.renderNodes ((s.bind key (.string k)).bind value v) body =
        Template.renderNodes ((t.bind key (.string k)).bind value v) body := ihbody ((h.cons _).cons _) hbody
    have hkeep (k : String) (v : Data) : only.data ((s.bind key (.string k)).bind value v) =
        only.data ((t.bind key (.string k)).bind value v) := ((h.cons _).cons _).data honly
    simp only [Template.renderNodes, h.data hsource, hentry, hkeep, ihrest h hrest]

end SameBut

/-- A part of a text: a text of its own, or a hole for a value, which within a JSON string is escaped. -/
inductive Piece (μ : Type) where
  | text (s : String)
  | hole (m : μ)
  | escapedHole (m : μ)

variable {μ : Type}

def escaped (s : String) : String := String.ofList (s.toList.flatMap Json.escape)

lemma quote_eq_escaped (s : String) : Json.quote s = '"' :: (escaped s).toList ++ ['"'] := by
  rw [Json.quote, escaped, String.toList_ofList]

lemma escaped_append (s t : String) : escaped (s ++ t) = escaped s ++ escaped t := by
  simp [escaped]

def Piece.fill (value : μ → String) : Piece μ → String
  | text s => s
  | hole m => value m
  | escapedHole m => escaped (value m)

def fill (value : μ → String) (pieces : List (Piece μ)) : String := String.join (pieces.map (·.fill value))

section

variable (marks : List (String × μ))

def Node.hole? : Node → Option μ
  | .print (.path n []) => Assoc.get? n marks
  | _ => none

def sketch (scope : Scope) : List Node → Except Fault (List (Piece μ))
  | [] => .ok []
  | node :: rest => do
    let piece ← match node.hole? marks with
      | some m => .ok (.hole m)
      | none => .text <$> renderNodes scope [node]
    return piece :: (← sketch scope rest)

def holesOnly (nodes : List Node) : Bool :=
  nodes.all fun node => (node.hole? marks).isSome || (!node.binds && avoids (marks.map Prod.fst) [node])

end

variable {marks : List (String × μ)} {value : μ → String}

lemma fill_cons (piece : Piece μ) (rest : List (Piece μ)) :
    fill value (piece :: rest) = piece.fill value ++ fill value rest := by
  rw [fill, List.map_cons, String.join_cons]
  rfl

lemma renderNodes_hole {scope : Scope} {node : Node} {m : μ}
    (hvalue : ∀ n m, Assoc.get? n marks = some m → scope.value n = .defined (.string (value m)))
    (hnode : node.hole? marks = some m) (rest : List Node) :
    renderNodes scope (node :: rest) = (value m ++ ·) <$> renderNodes scope rest := by
  unfold Node.hole? at hnode
  split at hnode
  · rename_i n
    have hdata : (Expr.path n []).data scope = .ok (.string (value m)) := by
      rw [Expr.data_path, hvalue n m hnode]
      rfl
    rw [renderNodes, hdata, map_eq_bind]
    rfl
  · cases hnode

lemma renderNodes_eq_fill {scope base : Scope} {nodes : List Node}
    (h : SameBut (marks.map Prod.fst) scope base)
    (hvalue : ∀ n m, Assoc.get? n marks = some m → scope.value n = .defined (.string (value m)))
    (hn : holesOnly marks nodes) : renderNodes scope nodes = fill value <$> sketch marks base nodes := by
  induction nodes with
  | nil =>
    rw [renderNodes, sketch]
    rfl
  | cons node rest ih =>
    rw [holesOnly, List.all_cons, Bool.and_eq_true, Bool.or_eq_true] at hn
    have hrest := ih hn.2
    cases hhole : node.hole? marks with
    | some m =>
      rw [renderNodes_hole hvalue hhole, hrest, sketch, hhole]
      simp [map_eq_bind, fill_cons, Piece.fill]
    | none =>
      have hnode := hn.1.resolve_left (by simp [hhole])
      rw [Bool.and_eq_true] at hnode
      rw [renderNodes_cons hnode.1, h.renderNodes hnode.2, hrest, sketch, hhole]
      simp [map_eq_bind, fill_cons, Piece.fill]

end ApiScaffold.Template
