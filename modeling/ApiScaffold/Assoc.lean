/-! Association lists: distinct keys, in the order of their first insertion. -/

namespace ApiScaffold.Assoc

variable {κ α : Type} [DecidableEq κ]

def get? (k : κ) : List (κ × α) → Option α
  | [] => none
  | (k', v) :: rest => if k' = k then some v else get? k rest

def insert (k : κ) (v : α) : List (κ × α) → List (κ × α)
  | [] => [(k, v)]
  | (k', v') :: rest => if k' = k then (k', v) :: rest else (k', v') :: insert k v rest

def ofList (entries : List (κ × α)) : List (κ × α) :=
  entries.foldl (fun acc (k, v) => insert k v acc) []

theorem get?_insert (k k' : κ) (v : α) (entries : List (κ × α)) :
    get? k' (insert k v entries) = if k = k' then some v else get? k' entries := by
  induction entries with
  | nil => simp [insert, get?]
  | cons entry rest ih =>
    obtain ⟨a, b⟩ := entry
    by_cases hk : a = k
    · subst hk
      by_cases h : a = k' <;> simp [insert, get?, h]
    · by_cases h : a = k'
      · subst h
        have hne : ¬ k = a := fun e => hk e.symm
        simp [insert, get?, hk, hne]
      · simp [insert, get?, hk, h, ih]

theorem isSome_get? (k : κ) (entries : List (κ × α)) : (get? k entries).isSome = entries.any (·.1 = k) := by
  induction entries with
  | nil => rfl
  | cons entry rest ih => by_cases hk : entry.1 = k <;> simp [get?, hk, ih]

end ApiScaffold.Assoc
