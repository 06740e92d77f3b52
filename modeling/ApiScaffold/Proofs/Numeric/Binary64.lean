import ApiScaffold.Numeric.Binary64
import Mathlib

namespace ApiScaffold.Binary64

variable {n : Nat} {negative : Bool}

lemma floorLog2_one (hn : n ≠ 0) : floorLog2 n 1 = n.log2 := by
  have hone : Nat.log2 1 = 0 := by decide
  simp [floorLog2, hone, Nat.log2_self_le hn]

lemma twoPow_natCast (k : Nat) : twoPow k = 2 ^ k := by
  simp [twoPow, Rat.mkRat_eq_div]

lemma twoPow_neg_natCast (k : Nat) : twoPow (-k) = (2 ^ k)⁻¹ := by
  simp [twoPow, Rat.mkRat_eq_div]

lemma roundDiv_one (num : Nat) : roundDiv num 1 = num := by
  simp [roundDiv, Nat.mod_one]

lemma div_le_roundDiv (num den : Nat) : num / den ≤ roundDiv num den := by
  simp only [roundDiv]
  split <;> omega

lemma ofRatio_one (hn : n ≠ 0) : ofRatio negative n 1 =
    let e : Int := n.log2 - 52
    let m := roundDiv (n * Nat.pow 2 (-e).toNat) (1 * Nat.pow 2 e.toNat)
    if m = Nat.pow 2 53 then if maxExponent < e + 1 then infinite negative
      else finite negative (Nat.pow 2 52) (e + 1)
    else if maxExponent < e then infinite negative else finite negative m e := by
  -- A whole number is far above the least exponent.
  have hmax : max ((n.log2 : Int) - 52) minExponent = n.log2 - 52 := by
    rw [minExponent]
    omega
  rw [ofRatio, if_neg hn, floorLog2_one hn, hmax]
  dsimp only
  split <;> rfl

lemma toRat?_ofRatio_of_lt (hn : n ≠ 0) (h : n < 2 ^ 53) :
    (ofRatio negative n 1).toRat? = some ((if negative then -1 else 1 : Rat) * n) := by
  have hlog : n.log2 ≤ 52 := Nat.lt_succ_iff.mp ((Nat.log2_lt hn).mpr h)
  obtain ⟨k, hk⟩ : ∃ k, n.log2 + k = 52 := ⟨52 - n.log2, by omega⟩
  have he : (n.log2 : Int) - 52 = -(k : Int) := by omega
  have hm : roundDiv (n * Nat.pow 2 k) (1 * Nat.pow 2 0) = n * 2 ^ k := roundDiv_one _
  have hlt : n * 2 ^ k < Nat.pow 2 53 := by
    calc n * 2 ^ k < 2 ^ (n.log2 + 1) * 2 ^ k := Nat.mul_lt_mul_of_pos_right Nat.lt_log2_self (by positivity)
      _ = 2 ^ 53 := by
        rw [← pow_add]
        congr 1
        omega
  have hfinite : ofRatio negative n 1 = finite negative (n * 2 ^ k) (-k) := by
    rw [ofRatio_one hn, he]
    dsimp only
    rw [neg_neg, Int.toNat_natCast, Int.toNat_neg_natCast, hm, if_neg hlt.ne,
      if_neg (by rw [maxExponent]; omega)]
  rw [hfinite, toRat?, twoPow_neg_natCast, Nat.cast_mul, Nat.cast_pow, mul_assoc, mul_assoc, Nat.cast_ofNat,
    mul_inv_cancel₀ (by positivity), mul_one]

lemma exists_toRat?_finite (negative : Bool) {m j : Nat} (hm : 2 ^ 52 ≤ m) (hj : 1 ≤ j) :
    ∃ q : Rat, 2 ^ 53 ≤ q ∧
    (finite negative m j).toRat? = some ((if negative then -1 else 1) * q) := by
  refine ⟨m * 2 ^ j, ?_, by rw [toRat?, twoPow_natCast, mul_assoc]⟩
  have hle : 2 ^ 52 * 2 ^ 1 ≤ m * 2 ^ j := Nat.mul_le_mul hm (Nat.pow_le_pow_right (by decide) hj)
  calc (2 ^ 53 : Rat) = 2 ^ 52 * 2 ^ 1 := by norm_num
    _ ≤ m * 2 ^ j := by exact_mod_cast hle

lemma ofRatio_of_le (h : 2 ^ 53 ≤ n) : ofRatio negative n 1 = infinite negative ∨
    ∃ q : Rat, 2 ^ 53 ≤ q ∧ (ofRatio negative n 1).toRat? = some ((if negative then -1 else 1) * q) := by
  have hn : n ≠ 0 := by positivity
  have hlog : 53 ≤ n.log2 := (Nat.le_log2 hn).mpr h
  obtain ⟨k, hk⟩ : ∃ k, n.log2 = 52 + k := ⟨n.log2 - 52, by omega⟩
  have he : (n.log2 : Int) - 52 = k := by omega
  have hm : 2 ^ 52 ≤ roundDiv (n * Nat.pow 2 0) (1 * Nat.pow 2 k) := by
    refine le_trans ?_ (div_le_roundDiv _ _)
    have hle : 2 ^ 52 * 2 ^ k ≤ n := by
      rw [← pow_add, ← hk]
      exact Nat.log2_self_le hn
    have hpow : 1 * Nat.pow 2 k = 2 ^ k := one_mul _
    rw [hpow]
    exact (Nat.le_div_iff_mul_le (by positivity)).mpr (hle.trans_eq (mul_one n).symm)
  rw [ofRatio_one hn, he]
  dsimp only
  rw [Int.toNat_neg_natCast, Int.toNat_natCast]
  split
  · -- the significand is carried over to the next exponent
    split
    · exact .inl rfl
    · exact .inr (exists_toRat?_finite negative le_rfl (Nat.le_add_left 1 k))
  · split
    · exact .inl rfl
    · exact .inr (exists_toRat?_finite negative hm (by omega))

lemma toRat?_ofInt_of_le {n : Int} (h : n.natAbs ≤ 2 ^ 53) : (ofInt n).toRat? = some (n : Rat) := by
  rcases Nat.eq_zero_or_pos n.natAbs with hzero | hpos
  · rw [Int.natAbs_eq_zero.mp hzero]
    decide +kernel
  rcases h.lt_or_eq with hlt | heq
  · rw [ofInt, toRat?_ofRatio_of_lt hpos.ne' hlt]
    rcases lt_or_ge n 0 with hneg | hnonneg
    · rw [decide_eq_true hneg, if_pos rfl, ← Int.cast_natCast, Int.ofNat_natAbs_of_nonpos hneg.le]
      simp
    · rw [decide_eq_false (not_lt.mpr hnonneg), if_neg Bool.false_ne_true, ← Int.cast_natCast,
        Int.natAbs_of_nonneg hnonneg, one_mul]
  · rcases Int.natAbs_eq n with hn | hn
    · rw [hn, heq]
      decide +kernel
    · rw [hn, heq]
      decide +kernel

lemma ofInt_of_neg {n : Int} (h : n < 0) :
    ofInt n = infinite true ∨ ∃ a < (0 : Rat), (ofInt n).toRat? = some a := by
  rcases Nat.le_total n.natAbs (2 ^ 53) with hle | hge
  · exact .inr ⟨n, Int.cast_lt_zero.mpr h, toRat?_ofInt_of_le hle⟩
  · rw [ofInt, decide_eq_true h]
    rcases ofRatio_of_le hge with hinf | ⟨q, hq, hx⟩
    · exact .inl hinf
    · exact .inr ⟨_, by rw [if_pos rfl]; linarith, hx⟩

lemma ofInt_of_le {n : Int} (h : 2 ^ 53 ≤ n) :
    ofInt n = infinite false ∨ ∃ a ≥ (2 ^ 53 : Rat), (ofInt n).toRat? = some a := by
  have hpos : ¬n < 0 := by omega
  rw [ofInt, decide_eq_false hpos]
  rcases ofRatio_of_le (n := n.natAbs) (by omega) with hinf | ⟨q, hq, hx⟩
  · exact .inl hinf
  · exact .inr ⟨q, hq, by rw [hx, if_neg Bool.false_ne_true, one_mul]⟩

def falsy (x : Binary64) : Bool := x = nan || x.isZero

def below (x y : Binary64) : Bool :=
  match x, y with
  | nan, _ | _, nan => false
  | infinite a, infinite b => a && !b
  | infinite a, finite .. => a
  | finite .., infinite b => !b
  | finite a m _, finite b n _ => if m = 0 ∧ n = 0 then a && !b else x.toRat?.getD 0 < y.toRat?.getD 0

def minimum (x y : Binary64) : Binary64 := if x = nan ∨ y = nan then nan else if below y x then y else x

variable {x y : Binary64} {a b : Rat}

lemma exists_finite (h : x.toRat? = some a) : ∃ negative m e, x = finite negative m e := by
  cases x with
  | finite negative m e => exact ⟨negative, m, e, rfl⟩
  | nan => cases h
  | infinite negative => cases h

lemma toRat?_minimum (hx : x.toRat? = some a) (hy : y.toRat? = some b) :
    (minimum x y).toRat? = some (min a b) := by
  obtain ⟨c, m, e, rfl⟩ := exists_finite hx
  obtain ⟨d, n, f, rfl⟩ := exists_finite hy
  rw [minimum, if_neg (by simp)]
  by_cases hzero : m = 0 ∧ n = 0
  · obtain ⟨rfl, rfl⟩ := hzero
    have ha : a = 0 := by simpa [toRat?] using hx.symm
    have hb : b = 0 := by simpa [toRat?] using hy.symm
    subst ha hb
    rw [min_self]
    split
    · exact hy
    · exact hx
  · have hbelow : below (finite d n f) (finite c m e) = decide (b < a) := by
      rw [below, if_neg fun h => hzero h.symm, hx, hy]
      rfl
    rw [hbelow]
    by_cases hba : b < a
    · rw [if_pos (decide_eq_true hba), min_eq_right hba.le, hy]
    · rw [if_neg (by simpa using hba), min_eq_left (not_lt.mp hba), hx]

lemma minimum_infinite (negative : Bool) (hy : y.toRat? = some b) :
    minimum (infinite negative) y = if negative then infinite negative else y := by
  obtain ⟨d, n, f, rfl⟩ := exists_finite hy
  cases negative <;> simp [minimum, below]

lemma falsy_of_toRat? (hx : x.toRat? = some a) (ha : a ≠ 0) : x.falsy = false := by
  obtain ⟨c, m, e, rfl⟩ := exists_finite hx
  cases m with
  | zero => exact absurd (by simpa [toRat?] using hx.symm) ha
  | succ m => simp [falsy, isZero]

end ApiScaffold.Binary64
