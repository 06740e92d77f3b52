import ApiScaffold.Platform.Pagination
import ApiScaffold.Proofs.Numeric.Digits
import ApiScaffold.Proofs.Text.Case
import ApiScaffold.Proofs.Text.Trim

/-!
The integer that starts a text: behind blanks, a sign or none and as many digits as stand there.
What counts as a blank is left open, as readers differ in it.
-/

namespace ApiScaffold.Pagination

variable {blank : Char → Bool} {s sign digits : List Char} {n : Int}

structure Opens (blank : Char → Bool) (s sign digits : List Char) : Prop where
  split : ∃ blanks rest, s = blanks ++ (sign ++ (digits ++ rest)) ∧ (∀ c ∈ blanks, blank c) ∧
    ∀ c ∈ rest.head?, c.isDigit = false
  sign : sign = [] ∨ sign = ['+'] ∨ sign = ['-']
  digits_ne : digits ≠ []
  digits : ∀ c ∈ digits, c.isDigit

def signed (sign digits : List Char) : Int :=
  if sign = ['-'] then -(digitsValue digits : Int) else digitsValue digits

def Number (blank : Char → Bool) (s : List Char) (n : Int) : Prop :=
  (∃ sign digits, Opens blank s sign digits ∧ n = signed sign digits) ∨
    (¬∃ sign digits, Opens blank s sign digits) ∧ n = 0

def Overlong (blank : Char → Bool) (s : List Char) : Prop :=
  ∃ sign digits, Opens blank s sign digits ∧ 4300 < digits.length

def startsInteger (c : Char) : Bool := c.isDigit || c == '+' || c == '-'

def Apart (blank : Char → Bool) : Prop := ∀ c, startsInteger c → blank c = false

lemma toNat_lt_of_startsInteger {c : Char} (h : startsInteger c) : c.toNat < 58 := by
  simp only [startsInteger, Bool.or_eq_true, beq_iff_eq] at h
  rcases h with (h | rfl) | rfl
  · simp only [Char.isDigit, Bool.and_eq_true, decide_eq_true_eq, UInt32.le_iff_toNat_le] at h
    exact Nat.lt_succ_of_le h.2
  · decide
  · decide

lemma apart_of_lt (h : ∀ k < 58, startsInteger (Char.ofNat k) → !blank (Char.ofNat k)) : Apart blank := by
  intro c hc
  have hblank : (!blank c) = true :=
    Text.forall_of_toNat_lt (q := fun c => !blank c) (fun _ => toNat_lt_of_startsInteger) h hc
  simpa using hblank

lemma apart_isBlank : Apart Text.isBlank := apart_of_lt (by decide)

def signOf : List Char → List Char
  | '-' :: _ => ['-']
  | '+' :: _ => ['+']
  | _ => []

def digitsOf (s : List Char) : List Char := (s.drop (signOf s).length).takeWhile Char.isDigit

lemma signOf_cons_of_isDigit {c : Char} (h : c.isDigit) (rest : List Char) : signOf (c :: rest) = [] := by
  have hplus : c ≠ '+' := by
    rintro rfl
    exact absurd h (by decide)
  have hminus : c ≠ '-' := by
    rintro rfl
    exact absurd h (by decide)
  simp [signOf, hplus, hminus]

lemma signOf_cases (s : List Char) : signOf s = [] ∨ signOf s = ['+'] ∨ signOf s = ['-'] := by
  rw [signOf.eq_def]
  split <;> simp

lemma signOf_append_drop (s : List Char) : signOf s ++ s.drop (signOf s).length = s := by
  rw [signOf.eq_def]
  split <;> simp

lemma Opens.signOf_eq (h : Opens blank s sign digits) (rest : List Char) :
    signOf (sign ++ (digits ++ rest)) = sign := by
  rcases h.sign with rfl | rfl | rfl
  · obtain ⟨c, more, rfl⟩ := List.exists_cons_of_ne_nil h.digits_ne
    exact signOf_cons_of_isDigit (h.digits c List.mem_cons_self) (more ++ rest)
  · rfl
  · rfl

lemma Opens.head (h : Opens blank s sign digits) (rest : List Char) :
    ∀ c ∈ (sign ++ (digits ++ rest)).head?, startsInteger c := by
  rcases h.sign with rfl | rfl | rfl
  · obtain ⟨c, more, rfl⟩ := List.exists_cons_of_ne_nil h.digits_ne
    simp [startsInteger, h.digits c List.mem_cons_self]
  · simp [startsInteger]
  · simp [startsInteger]

lemma opens_iff (h : Apart blank) : Opens blank s sign digits ↔
    sign = signOf (s.dropWhile blank) ∧ digits = digitsOf (s.dropWhile blank) ∧ digits ≠ [] := by
  constructor
  · intro hopens
    obtain ⟨blanks, rest, hs, hblanks, hrest⟩ := hopens.split
    have hdrop : s.dropWhile blank = sign ++ (digits ++ rest) := by
      rw [hs]
      exact Text.dropWhile_append_of_stop hblanks fun c hc => h c (hopens.head rest c hc)
    refine ⟨by rw [hdrop, hopens.signOf_eq], ?_, hopens.digits_ne⟩
    rw [hdrop, digitsOf, hopens.signOf_eq, List.drop_left, Text.takeWhile_append_of_stop hopens.digits hrest]
  · rintro ⟨rfl, rfl, hne⟩
    refine ⟨⟨s.takeWhile blank,
      ((s.dropWhile blank).drop (signOf (s.dropWhile blank)).length).dropWhile Char.isDigit,
      ?_, fun c hc => List.mem_takeWhile_imp hc, Text.head?_dropWhile _ _⟩, signOf_cases _,
        hne, fun c hc => ?_⟩
    · rw [digitsOf, List.takeWhile_append_dropWhile, signOf_append_drop, List.takeWhile_append_dropWhile]
    · exact List.mem_takeWhile_imp hc

lemma not_opens_iff (h : Apart blank) : (¬∃ sign digits, Opens blank s sign digits) ↔
    digitsOf (s.dropWhile blank) = [] := by
  simp only [opens_iff h]
  constructor
  · intro hnone
    by_contra hne
    exact hnone ⟨_, _, rfl, rfl, hne⟩
  · rintro hnil ⟨sign, digits, -, rfl, hne⟩
    exact hne hnil

lemma number_iff (h : Apart blank) : Number blank s n ↔
    n = signed (signOf (s.dropWhile blank)) (digitsOf (s.dropWhile blank)) := by
  rw [Number, not_opens_iff h]
  simp only [opens_iff h]
  by_cases hnil : digitsOf (s.dropWhile blank) = []
  · have hzero : signed (signOf (s.dropWhile blank)) [] = 0 := by simp [signed, digitsValue]
    rw [hnil, hzero]
    constructor
    · rintro (⟨sign, digits, ⟨-, hdigits, hne⟩, -⟩ | ⟨-, hn⟩)
      · exact absurd hdigits hne
      · exact hn
    · exact fun hn => .inr ⟨rfl, hn⟩
  · constructor
    · rintro (⟨sign, digits, ⟨rfl, rfl, -⟩, hn⟩ | ⟨hdigits, -⟩)
      · exact hn
      · exact absurd hdigits hnil
    · exact fun hn => .inl ⟨_, _, ⟨rfl, rfl, hnil⟩, hn⟩

lemma overlong_iff (h : Apart blank) : Overlong blank s ↔ 4300 < (digitsOf (s.dropWhile blank)).length := by
  simp only [Overlong, opens_iff h]
  constructor
  · rintro ⟨sign, digits, ⟨-, rfl, -⟩, hlength⟩
    exact hlength
  · intro hlength
    exact ⟨_, _, ⟨rfl, rfl, List.ne_nil_of_length_pos (Nat.zero_lt_of_lt hlength)⟩, hlength⟩

lemma existsUnique_number (h : Apart blank) (s : List Char) : ∃! n, Number blank s n := by
  simp only [number_iff h]
  exact existsUnique_eq

lemma digitsOf_cons_of_stop {c : Char} (hblank : blank c = false) (hstart : startsInteger c = false)
    (rest : List Char) :
    digitsOf ((c :: rest).dropWhile blank) = [] := by
  simp only [startsInteger, Bool.or_eq_false_iff, beq_eq_false_iff_ne] at hstart
  obtain ⟨⟨hdigit, hplus⟩, hminus⟩ := hstart
  rw [List.dropWhile_cons_of_neg (by simp [hblank])]
  simp [digitsOf, signOf, hplus, hminus, hdigit]

lemma number_cons_of_stop (h : Apart blank) {c : Char} (hblank : blank c = false)
    (hstart : startsInteger c = false) (rest : List Char) : Number blank (c :: rest) n ↔ n = 0 := by
  rw [number_iff h, digitsOf_cons_of_stop hblank hstart]
  simp [signed, digitsValue]

lemma number_nil_iff (h : Apart blank) : Number blank [] n ↔ n = 0 := by
  rw [number_iff h]
  simp [signed, signOf, digitsOf, digitsValue]

lemma apart_never : Apart fun _ => false := fun _ _ => rfl

lemma number_append_iff (h : Apart blank) {blanks rest : List Char} {k : Int}
    (hblanks : ∀ c ∈ blanks, startsInteger c = false)
    (hrest : ∀ c ∈ rest.head?, blank c = false) (hk : Number (fun _ => false) rest k) :
    Number blank (blanks ++ rest) n ↔ n = if blanks.all blank then k else 0 := by
  split
  · rename_i hall
    rw [number_iff apart_never, List.dropWhile_eq_self_iff.mpr (by simp)] at hk
    rw [number_iff h, Text.dropWhile_append_of_stop (List.all_eq_true.mp hall) hrest, hk]
  · rename_i hsome
    rw [number_iff h]
    induction blanks with
    | nil => exact absurd rfl hsome
    | cons c more ih =>
      obtain ⟨hc, hmore⟩ := List.forall_mem_cons.mp hblanks
      cases hblank : blank c with
      | true =>
        rw [List.all_cons, hblank, Bool.true_and] at hsome
        rw [List.cons_append, List.dropWhile_cons_of_pos hblank]
        exact ih hmore hsome
      | false =>
        -- This reader stops here, at what starts no integer.
        rw [← number_iff h]
        exact number_cons_of_stop h hblank hc (more ++ rest)

lemma opens_repr {blanks rest : List Char} (hblanks : ∀ c ∈ blanks, blank c)
    (hrest : ∀ c ∈ rest.head?, c.isDigit = false)
    (n : Int) : Opens blank (blanks ++ (n.repr.toList ++ rest)) (if n < 0 then ['-'] else [])
    (Nat.toDigits 10 n.natAbs) where
  split := ⟨blanks, rest, by rw [toList_repr, List.append_assoc], hblanks, hrest⟩
  sign := by split <;> simp
  digits_ne := Nat.toDigits_ne_nil
  digits := isDigit_toDigits _

lemma signed_repr (n : Int) : signed (if n < 0 then ['-'] else []) (Nat.toDigits 10 n.natAbs) = n := by
  rw [signed, digitsValue_toDigits]
  split
  · rw [if_pos rfl]
    omega
  · rw [if_neg (List.cons_ne_nil _ _).symm]
    omega

lemma number_repr_iff (h : Apart blank) {m : Int} : Number blank n.repr.toList m ↔ m = n := by
  have hopens : Opens blank ([] ++ (n.repr.toList ++ [])) _ _ :=
    opens_repr (List.forall_mem_nil _) (by simp) n
  rw [List.nil_append, List.append_nil] at hopens
  have hn : Number blank n.repr.toList n := .inl ⟨_, _, hopens, (signed_repr n).symm⟩
  exact ⟨fun hm => (existsUnique_number h _).unique hm hn, fun heq => heq ▸ hn⟩

end ApiScaffold.Pagination
