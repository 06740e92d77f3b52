import ApiScaffold.Proofs.Numeric.Binary64

/-!
Rounding gives a number of the format, and none is nearer to the exact value. From this alone the
order of two values is kept; an error is below half a unit in the last place.
-/

namespace ApiScaffold.Binary64

variable {num den : Nat} {p q r s : Rat} {negative : Bool}

lemma twoPow_eq (e : Int) : twoPow e = 2 ^ e := by
  cases e with
  | ofNat n => exact (twoPow_natCast n).trans (zpow_natCast 2 n).symm
  | negSucc n =>
    rw [Int.negSucc_eq, ← Nat.cast_add_one, twoPow_neg_natCast, zpow_neg, zpow_natCast]

lemma roundDiv_bounds (num : Nat) (hden : 0 < den) : 2 * num ≤ 2 * (den * roundDiv num den) + den ∧
    2 * (den * roundDiv num den) ≤ 2 * num + den := by
  have hsplit := Nat.div_add_mod num den
  have hmod := Nat.mod_lt num hden
  rw [roundDiv]
  split
  · omega
  · rw [Nat.mul_add_one]
    omega

lemma abs_roundDiv_sub_le (hden : 0 < den) : |(roundDiv num den : Rat) - num / den| ≤ 1 / 2 := by
  obtain ⟨hlow, hhigh⟩ := roundDiv_bounds num hden
  have hpos : (0 : Rat) < den := Nat.cast_pos.mpr hden
  have hnum : (num : Rat) = den * (num / den) := (mul_div_cancel₀ _ hpos.ne').symm
  have hlow' : 2 * (den * (num / den)) ≤ 2 * (den * (roundDiv num den : Rat)) + den := by
    rw [← hnum]
    exact_mod_cast hlow
  have hhigh' : 2 * (den * (roundDiv num den : Rat)) ≤ 2 * (den * (num / den)) + den := by
    rw [← hnum]
    exact_mod_cast hhigh
  rw [abs_le]
  constructor
  · refine le_of_mul_le_mul_left ?_ hpos
    linarith
  · refine le_of_mul_le_mul_left ?_ hpos
    linarith

lemma abs_sub_le_of_abs_sub_le_half {m n : Int}
    (h : |(m : Rat) - q| ≤ 1 / 2) : |(m : Rat) - q| ≤ |n - q| := by
  by_cases heq : m = n
  · rw [heq]
  · have hapart : (1 : Rat) ≤ |(n : Rat) - m| := by
      exact_mod_cast Int.one_le_abs (sub_ne_zero.mpr (Ne.symm heq))
    have htriangle : |(n : Rat) - m| ≤ |n - q| + |m - q| := by
      rw [← abs_sub_comm q m]
      exact abs_sub_le _ _ _
    linarith

lemma two_pow_div_two_pow (e : Int) : (2 : Rat) ^ e.toNat / 2 ^ (-e).toNat = 2 ^ e := by
  rw [← zpow_natCast, ← zpow_natCast, ← zpow_sub₀ two_ne_zero]
  congr 1
  omega

lemma scaled_eq (num den : Nat) (e : Int) :
    ((num * Nat.pow 2 (-e).toNat : Nat) : Rat) / (den * Nat.pow 2 e.toNat : Nat) = num / den / 2 ^ e := by
  have hpow (k : Nat) : ((Nat.pow 2 k : Nat) : Rat) = 2 ^ k := Nat.cast_pow 2 k
  rw [← two_pow_div_two_pow, Nat.cast_mul, Nat.cast_mul, hpow, hpow, div_div_eq_mul_div,
    div_mul_eq_mul_div, div_div]

lemma scaled_le_iff (hden : 0 < den) (e : Int) :
    den * Nat.pow 2 e.toNat ≤ num * Nat.pow 2 (-e).toNat ↔ (2 : Rat) ^ e ≤ num / den := by
  have hscaled : 0 < den * Nat.pow 2 e.toNat := Nat.mul_pos hden (Nat.pow_pos two_pos)
  have hpos : (0 : Rat) < (den * Nat.pow 2 e.toNat : Nat) := Nat.cast_pos.mpr hscaled
  rw [← one_le_div (zpow_pos (two_pos (α := Rat)) e), ← scaled_eq, one_le_div hpos, Nat.cast_le]

lemma floorLog2_bounds (hnum : num ≠ 0) (hden : den ≠ 0) :
    (2 : Rat) ^ floorLog2 num den ≤ num / den ∧ (num : Rat) / den < 2 ^ (floorLog2 num den + 1) := by
  have hpos : (0 : Rat) < den := Nat.cast_pos.mpr (Nat.pos_of_ne_zero hden)
  have hnumLow : (2 : Rat) ^ (num.log2 : Int) ≤ num := by exact_mod_cast Nat.log2_self_le hnum
  have hnumHigh : (num : Rat) < 2 ^ (num.log2 + 1 : Int) := by exact_mod_cast Nat.lt_log2_self
  have hdenLow : (2 : Rat) ^ (den.log2 : Int) ≤ den := by exact_mod_cast Nat.log2_self_le hden
  have hdenHigh : (den : Rat) < 2 ^ (den.log2 + 1 : Int) := by exact_mod_cast Nat.lt_log2_self
  -- The difference of the logarithms is right or one too much.
  have hlow : (2 : Rat) ^ ((num.log2 : Int) - den.log2 - 1) ≤ num / den := by
    rw [sub_sub, zpow_sub₀ two_ne_zero]
    exact div_le_div₀ (Nat.cast_nonneg num) hnumLow hpos hdenHigh.le
  have hhigh : (num : Rat) / den < 2 ^ ((num.log2 : Int) - den.log2 + 1) := by
    rw [sub_add_eq_add_sub, zpow_sub₀ two_ne_zero]
    exact div_lt_div₀ hnumHigh hdenLow (zpow_pos two_pos _).le (zpow_pos two_pos _)
  rw [floorLog2]
  split
  · rename_i h
    exact ⟨(scaled_le_iff (Nat.pos_of_ne_zero hden) _).mp h, hhigh⟩
  · rename_i h
    rw [scaled_le_iff (Nat.pos_of_ne_zero hden), not_le] at h
    rw [sub_add_cancel]
    exact ⟨hlow, h⟩

def exponentOf (num den : Nat) : Int := max (floorLog2 num den - 52) minExponent

def significandOf (num den : Nat) : Nat :=
  roundDiv (num * Nat.pow 2 (-exponentOf num den).toNat) (den * Nat.pow 2 (exponentOf num den).toNat)

lemma abs_significandOf_sub_le (num : Nat) (hden : den ≠ 0) :
    |(significandOf num den : Rat) - num / den / 2 ^ exponentOf num den| ≤ 1 / 2 := by
  rw [← scaled_eq]
  exact abs_roundDiv_sub_le (Nat.mul_pos (Nat.pos_of_ne_zero hden) (Nat.pow_pos two_pos))

lemma lt_two_pow_exponentOf (hnum : num ≠ 0) (hden : den ≠ 0) :
    (num : Rat) / den < 2 ^ 53 * 2 ^ exponentOf num den := by
  obtain ⟨-, hhigh⟩ := floorLog2_bounds hnum hden
  refine hhigh.trans_le ?_
  rw [← zpow_natCast, ← zpow_add₀ two_ne_zero]
  refine zpow_le_zpow_right₀ one_le_two ?_
  rw [exponentOf]
  omega

lemma significandOf_le (hnum : num ≠ 0) (hden : den ≠ 0) : significandOf num den ≤ 2 ^ 53 := by
  have hquotient : (num : Rat) / den / 2 ^ exponentOf num den < 2 ^ 53 :=
    (div_lt_iff₀ (zpow_pos two_pos _)).mpr (lt_two_pow_exponentOf hnum hden)
  have hnear := (abs_le.mp (abs_significandOf_sub_le num hden)).2
  have hlt : (significandOf num den : Rat) < (2 ^ 53 + 1 : Nat) := by
    push_cast
    linarith
  exact Nat.lt_succ_iff.mp (Nat.cast_lt.mp hlt)

lemma toRat?_ofRatio (hnum : num ≠ 0) (h : exponentOf num den < maxExponent) :
    (ofRatio negative num den).toRat? =
    some ((if negative then -1 else 1 : Rat) * (significandOf num den * 2 ^ exponentOf num den)) := by
  have hratio : ofRatio negative num den = if significandOf num den = Nat.pow 2 53 then
      if maxExponent < exponentOf num den + 1 then infinite negative
      else finite negative (Nat.pow 2 52) (exponentOf num den + 1)
    else if maxExponent < exponentOf num den then infinite negative
    else finite negative (significandOf num den) (exponentOf num den) := by
    rw [ofRatio, if_neg hnum, significandOf, exponentOf]
    dsimp only
    split <;> rfl
  rw [hratio]
  split
  · rename_i hcarry
    have hpow : ((Nat.pow 2 53 : Nat) : Rat) = 2 * (Nat.pow 2 52 : Nat) := by norm_num
    rw [if_neg (by omega), toRat?, twoPow_eq, hcarry, zpow_add_one₀ two_ne_zero, hpow]
    congr 1
    ring
  · rw [if_neg (by omega), toRat?, twoPow_eq, mul_assoc]

/-- A significand of `2 ^ 53` stands for half of it at the next exponent. -/
def Representable (x : Rat) : Prop := ∃ m : Nat, ∃ e : Int, m ≤ 2 ^ 53 ∧ minExponent ≤ e ∧ |x| = m * 2 ^ e

structure Rounds (q r : Rat) : Prop where
  representable : Representable r
  nearest : ∀ x, Representable x → |r - q| ≤ |x - q|
  close : 2 ^ (-1022 : Int) ≤ |q| → |r - q| ≤ |q| / 2 ^ 53

lemma representable_zero : Representable 0 := ⟨0, minExponent, Nat.zero_le _, le_rfl, by simp⟩

lemma Representable.neg (h : Representable r) : Representable (-r) := by
  obtain ⟨m, e, hm, he, hr⟩ := h
  exact ⟨m, e, hm, he, by rw [abs_neg, hr]⟩

lemma rounds_zero : Rounds 0 0 where
  representable := representable_zero
  nearest x _ := by simp
  close _ := by simp

lemma Rounds.neg (h : Rounds q r) : Rounds (-q) (-r) where
  representable := h.representable.neg
  nearest x hx := by
    have hle := h.nearest (-x) hx.neg
    rwa [← abs_neg, ← abs_neg (-x - q), neg_sub', neg_sub', neg_neg] at hle
  close hq := by
    rw [abs_neg] at hq ⊢
    have hle := h.close hq
    rwa [← abs_neg, neg_sub'] at hle

lemma Rounds.mono (h : Rounds p r) (h' : Rounds q s) (hlt : p < q) : r ≤ s := by
  by_contra hgt
  rw [not_le] at hgt
  -- Otherwise the middle between the results would be below the lesser value and above the greater.
  have hlow : r + s ≤ 2 * p := by
    by_contra hmiddle
    have hnearer : |s - p| < r - p := abs_lt.mpr ⟨by linarith, by linarith⟩
    linarith [h.nearest s h'.representable, le_abs_self (r - p)]
  have hhigh : 2 * q ≤ r + s := by
    by_contra hmiddle
    have hnearer : |r - q| < q - s := abs_lt.mpr ⟨by linarith, by linarith⟩
    linarith [h'.nearest r h.representable, neg_le_abs (s - q)]
  linarith

lemma Rounds.nonneg (h : Rounds q r) (hq : 0 ≤ q) : 0 ≤ r := by
  have hzero := h.nearest 0 representable_zero
  rw [zero_sub, abs_neg, abs_of_nonneg hq] at hzero
  linarith [neg_le_abs (r - q)]

lemma Rounds.abs_le (h : Rounds q r) : |r| ≤ 2 * |q| := by
  have hzero := h.nearest 0 representable_zero
  rw [zero_sub, abs_neg] at hzero
  have htriangle : |r| ≤ |r - q| + |q| := by simpa using abs_add_le (r - q) q
  linarith

lemma multiple_or_below (hnum : num ≠ 0) (hden : den ≠ 0) {x : Rat} (hx : Representable x) :
    (∃ n : Int, x = n * 2 ^ exponentOf num den) ∨
      x ≤ 2 ^ 52 * 2 ^ exponentOf num den ∧ 2 ^ 52 * 2 ^ exponentOf num den ≤ (num : Rat) / den := by
  obtain ⟨m, e, hm, he, hx⟩ := hx
  rcases le_or_gt (exponentOf num den) e with hle | hlt
  · left
    obtain ⟨k, hk⟩ := Int.le.dest hle
    have hmultiple : |x| = ((m * 2 ^ k : Int) : Rat) * 2 ^ exponentOf num den := by
      rw [hx, ← hk, zpow_add₀ two_ne_zero, zpow_natCast]
      push_cast
      ring
    rcases abs_choice x with habs | habs
    · exact ⟨_, habs ▸ hmultiple⟩
    · exact ⟨-(m * 2 ^ k), by rw [← neg_neg x, ← habs, hmultiple]; push_cast; ring⟩
  · right
    constructor
    · have hpow : (2 : Rat) ^ e ≤ 2 ^ (exponentOf num den - 1) := zpow_le_zpow_right₀ one_le_two (by omega)
      have hm' : (m : Rat) ≤ 2 ^ 53 := by exact_mod_cast hm
      calc x ≤ |x| := le_abs_self x
        _ = m * 2 ^ e := hx
        _ ≤ 2 ^ 53 * 2 ^ (exponentOf num den - 1) :=
          mul_le_mul hm' hpow (zpow_pos two_pos e).le (by positivity)
        _ = 2 ^ 52 * 2 ^ exponentOf num den := by rw [zpow_sub_one₀ two_ne_zero]; ring
    · have hnormal : exponentOf num den = floorLog2 num den - 52 := by
        rw [exponentOf] at hlt ⊢
        omega
      obtain ⟨hlow, -⟩ := floorLog2_bounds hnum hden
      rw [hnormal, ← zpow_natCast, ← zpow_add₀ two_ne_zero]
      simpa using hlow

lemma abs_multiple_sub (m : Rat) (q : Rat) (e : Int) : |m * 2 ^ e - q| = |m - q / 2 ^ e| * 2 ^ e := by
  have hpos : (0 : Rat) < 2 ^ e := zpow_pos two_pos e
  rw [← abs_of_pos hpos, ← abs_mul, abs_of_pos hpos, sub_mul, div_mul_cancel₀ q hpos.ne']

lemma rounds_quotient (hnum : num ≠ 0) (hden : den ≠ 0) :
    Rounds (num / den) (significandOf num den * 2 ^ exponentOf num den) := by
  have hhalf := abs_significandOf_sub_le num hden
  have hpos : (0 : Rat) < 2 ^ exponentOf num den := zpow_pos two_pos _
  have hmultiple (n : Int) : |significandOf num den * 2 ^ exponentOf num den - (num : Rat) / den| ≤
      |n * 2 ^ exponentOf num den - (num : Rat) / den| := by
    rw [abs_multiple_sub, abs_multiple_sub]
    exact mul_le_mul_of_nonneg_right (abs_sub_le_of_abs_sub_le_half hhalf) hpos.le
  refine ⟨⟨_, _, significandOf_le hnum hden, le_max_right _ _, abs_of_nonneg (by positivity)⟩,
    fun x hx => ?_, fun hq => ?_⟩
  · rcases multiple_or_below hnum hden hx with ⟨n, rfl⟩ | ⟨hbelow, hbinade⟩
    · exact hmultiple n
    -- the least number of the binade lies between the other one and the quotient
    · refine (hmultiple (2 ^ 52)).trans ?_
      push_cast
      rw [abs_of_nonpos (by linarith), abs_of_nonpos (by linarith)]
      linarith
  · have habs : |(num : Rat) / den| = num / den := abs_of_nonneg (by positivity)
    rw [habs] at hq ⊢
    obtain ⟨hlow, hhigh⟩ := floorLog2_bounds hnum hden
    have hlog := (zpow_lt_zpow_iff_right₀ one_lt_two).mp (hq.trans_lt hhigh)
    have hnormal : floorLog2 num den = exponentOf num den + 52 := by
      rw [exponentOf, minExponent]
      omega
    rw [hnormal, zpow_add₀ two_ne_zero] at hlow
    calc |significandOf num den * 2 ^ exponentOf num den - (num : Rat) / den|
        = |(significandOf num den : Rat) - num / den / 2 ^ exponentOf num den| * 2 ^ exponentOf num den :=
          abs_multiple_sub _ _ _
      _ ≤ 1 / 2 * 2 ^ exponentOf num den := mul_le_mul_of_nonneg_right hhalf hpos.le
      _ = 2 ^ exponentOf num den * 2 ^ (52 : Int) / 2 ^ 53 := by norm_num; ring
      _ ≤ num / den / 2 ^ 53 := div_le_div_of_nonneg_right hlow (by positivity)

lemma exists_rounds_ofRatio (negative : Bool) (num : Nat) (hden : den ≠ 0)
    (h : (num : Rat) / den < 2 ^ (1023 : Int)) :
    ∃ r, (ofRatio negative num den).toRat? = some r ∧
    Rounds ((if negative then -1 else 1) * (num / den)) r := by
  by_cases hnum : num = 0
  · refine ⟨0, ?_, ?_⟩
    · rw [hnum, ofRatio, if_pos rfl, toRat?]
      simp
    · rw [hnum, Nat.cast_zero, zero_div, mul_zero]
      exact rounds_zero
  · have hexponent : exponentOf num den < maxExponent := by
      have hlog := (zpow_lt_zpow_iff_right₀ one_lt_two).mp ((floorLog2_bounds hnum hden).1.trans_lt h)
      rw [exponentOf, maxExponent, minExponent]
      omega
    refine ⟨_, toRat?_ofRatio hnum hexponent, ?_⟩
    have hrounds := rounds_quotient hnum hden
    cases negative with
    | false => simpa using hrounds
    | true => simpa using hrounds.neg

lemma exists_rounds_int (n : Int) (hden : den ≠ 0) (h : (n.natAbs : Rat) / den < 2 ^ (1023 : Int)) :
    ∃ r, (ofRatio (n < 0) n.natAbs den).toRat? = some r ∧ Rounds (n / den) r := by
  obtain ⟨r, hr, hrounds⟩ := exists_rounds_ofRatio (n < 0) n.natAbs hden h
  refine ⟨r, hr, ?_⟩
  rw [Nat.cast_natAbs, Int.cast_abs] at hrounds
  rcases lt_or_ge n 0 with hneg | hnonneg
  · have hcast : (n : Rat) < 0 := Int.cast_lt_zero.mpr hneg
    rwa [decide_eq_true hneg, if_pos rfl, abs_of_neg hcast, neg_div, neg_one_mul, neg_neg] at hrounds
  · have hcast : (0 : Rat) ≤ n := Int.cast_nonneg hnonneg
    rwa [decide_eq_false (not_lt.mpr hnonneg), if_neg Bool.false_ne_true, abs_of_nonneg hcast,
      one_mul] at hrounds

lemma natAbs_num_div_den (q : Rat) : (q.num.natAbs : Rat) / q.den = |q| := by
  conv_rhs => rw [← Rat.num_div_den q]
  rw [abs_div, Nat.abs_cast, Nat.cast_natAbs, Int.cast_abs]

lemma exists_rounds_ofRat (h : |q| < 2 ^ (1023 : Int)) : ∃ r, (ofRat q).toRat? = some r ∧ Rounds q r := by
  have hratio : ofRat q = ofRatio (q.num < 0) q.num.natAbs q.den := by simp only [ofRat, Rat.num_neg]
  obtain ⟨r, hr, hrounds⟩ := exists_rounds_int q.num q.den_ne_zero ((natAbs_num_div_den q).trans_lt h)
  rw [Rat.num_div_den] at hrounds
  exact ⟨r, by rw [hratio, hr], hrounds⟩

end ApiScaffold.Binary64
