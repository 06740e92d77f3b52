import ApiScaffold.Proofs.Except
import ApiScaffold.Proofs.Text.Identifier
import ApiScaffold.Template.Render

namespace ApiScaffold.Template

open Chain

inductive Shape where
  | any
  | text
  | line
  | word
  | number
  | constant (s : String)
  | list (item : Shape)
  | nonempty (item : Shape)
  | table (key value : Shape)
  | record (fields : List (String × Shape))
  | oneOf (options : List Shape)

inductive Fits : Shape → Data → Prop
  | any (v : Data) : Fits .any v
  | text (s : String) : Fits .text (.string s)
  | line {s : String} : '\n' ∉ s.toList → Fits .line (.string s)
  | word {s : String} : Text.isWord s.toList → Fits .word (.string s)
  | number (n : Int) : Fits .number (.int n)
  | constant (s : String) : Fits (.constant s) (.string s)
  | list {item : Shape} {items : List Data} : (∀ v ∈ items, Fits item v) → Fits (.list item) (.list items)
  | nonempty {item : Shape} {items : List Data} : items ≠ [] → (∀ v ∈ items, Fits item v) →
      Fits (.nonempty item) (.list items)
  | table {key value : Shape} {entries : List (String × Data)} : (∀ e ∈ entries, Fits key (.string e.1)) →
      (∀ e ∈ entries, Fits value e.2) → Fits (.table key value) (.map entries)
  | empty : Fits (.record []) (.map [])
  | field {n : String} {s : Shape} {v : Data} {fields : List (String × Shape)}
    {entries : List (String × Data)} :
      Fits s v → Fits (.record fields) (.map entries) →
      Fits (.record ((n, s) :: fields)) (.map ((n, v) :: entries))
  | option {options : List Shape} {s : Shape} {v : Data} : s ∈ options → Fits s v → Fits (.oneOf options) v

abbrev Env := List (String × Shape)

def FitsScope (env : Env) (scope : Scope) : Prop :=
  ∀ n s, Assoc.get? n env = some s → ∃ v, scope.value n = .defined v ∧ Fits s v

lemma FitsScope.nil : FitsScope [] [] := by
  intro n s h
  simp [Assoc.get?] at h

lemma FitsScope.bind {env : Env} {scope : Scope} {n : String} {s : Shape} {v : Data} (h : FitsScope env scope)
    (hv : Fits s v) : FitsScope ((n, s) :: env) ((n, .defined v) :: scope) := by
  intro m t hm
  by_cases hn : n = m
  · simp only [Assoc.get?, hn, if_true, Option.some.injEq] at hm
    subst hm
    exact ⟨v, by simp [Scope.value, Assoc.get?, hn], hv⟩
  · simp only [Assoc.get?, hn, if_false] at hm
    obtain ⟨w, hw, ht⟩ := h m t hm
    exact ⟨w, by simpa [Scope.value, Assoc.get?, hn] using hw, ht⟩

namespace Shape

def walk : Shape → List String → Option Shape
  | s, [] => some s
  | record fields, n :: rest => (Assoc.get? n fields).bind (walk · rest)
  | _, _ :: _ => none

def item? : Shape → Option Shape
  | list item | nonempty item => some item
  | _ => none

def options : Shape → List Shape
  | oneOf options => options
  | s => [s]

def isText : Shape → Bool
  | text | line | word | constant _ => true
  | _ => false

end Shape

lemma Fits.attribute {fields : List (String × Shape)} {v : Data} (h : Fits (.record fields) v) {n : String}
    {s : Shape} (hn : Assoc.get? n fields = some s) : ∃ w, v.get? n = some w ∧ Fits s w := by
  induction fields generalizing v with
  | nil => simp [Assoc.get?] at hn
  | cons entry rest ih =>
    cases h with
    | @field m t w _ entries hw hrest =>
      by_cases hm : m = n
      · simp only [Assoc.get?, hm, if_true, Option.some.injEq] at hn
        exact ⟨w, by simp [Data.get?, Assoc.get?, hm], hn ▸ hw⟩
      · simp only [Assoc.get?, hm, if_false] at hn
        obtain ⟨x, hx, hs⟩ := ih hrest hn
        exact ⟨x, by simpa [Data.get?, Assoc.get?, hm] using hx, hs⟩

lemma Fits.walk {s t : Shape} {v : Data} {attributes : List String} (h : Fits s v)
    (ht : s.walk attributes = some t) :
    ∃ w, Expr.walk (.defined v) attributes = .ok (.defined w) ∧ Fits t w := by
  induction attributes generalizing s v with
  | nil =>
    simp only [Shape.walk, Option.some.injEq] at ht
    exact ⟨v, rfl, ht ▸ h⟩
  | cons n rest ih =>
    cases s with
    | record fields =>
      obtain ⟨u, hu, hrest⟩ := Option.bind_eq_some_iff.mp ht
      obtain ⟨w, hw, hfit⟩ := h.attribute hu
      obtain ⟨x, hx, hxt⟩ := ih hfit hrest
      refine ⟨x, ?_, hxt⟩
      simpa [Expr.walk, Value.demand, Value.ofAttribute, hw] using hx
    | _ => simp [Shape.walk] at ht

lemma Fits.string {s : Shape} {v : Data} (h : Fits s v) (ht : s.isText) : ∃ t, v = .string t := by
  cases h <;> first | exact ⟨_, rfl⟩ | simp [Shape.isText] at ht

lemma Fits.exists_option {s : Shape} {v : Data} (h : Fits s v) : ∃ t ∈ s.options, Fits t v := by
  cases s with
  | oneOf options =>
    cases h with
    | option hmem hv => exact ⟨_, hmem, hv⟩
  | _ => exact ⟨_, List.mem_singleton_self _, h⟩

lemma Fits.items {s item : Shape} {v : Data} (h : Fits s v) (hi : s.item? = some item) :
    ∃ items, v = .list items ∧ ∀ x ∈ items, Fits item x := by
  cases h <;> simp only [Shape.item?, Option.some.injEq, reduceCtorEq] at hi
  all_goals
    subst hi
    exact ⟨_, rfl, by assumption⟩

end ApiScaffold.Template
