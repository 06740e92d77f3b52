import ApiScaffold.Numeric.Duration
import ApiScaffold.Proofs.Numeric.Digits
import ApiScaffold.Proofs.Numeric.Rounding

/-!
The text of a duration as the reading of a clock. It is never a second away from the duration, and
it is a proper one but for the last twentieth of a second below a minute, which is shown as sixty
seconds.
-/

namespace ApiScaffold.Duration

open Binary64

inductive Reading where
  | tenths (n : Nat)
  | minutes (m k : Nat)
  deriving DecidableEq

namespace Reading

def text : Reading → String
  | tenths n => toString (n / 10) ++ "." ++ toString (n % 10) ++ "s"
  | minutes m k => toString m ++ "m " ++ toString k ++ "s"

def value : Reading → Rat
  | tenths n => n / 10
  | minutes m k => 60 * m + k

def Proper : Reading → Prop
  | tenths n => n < 600
  | minutes m k => 1 ≤ m ∧ k < 60

variable {r s : Reading}

lemma text_inj : r.text = s.text ↔ r = s := by
  have hpoint (n : Nat) : '.' ∉ Nat.toDigits 10 n := notMem_toDigits (by decide) n
  have hunit (n : Nat) : 'm' ∉ Nat.toDigits 10 n := notMem_toDigits (by decide) n
  have htenths (n : Nat) : (tenths n).text.toList =
      Nat.toDigits 10 (n / 10) ++ '.' :: (Nat.toDigits 10 (n % 10) ++ ['s']) := by
    simp [text]
  have hminutes (m k : Nat) : (minutes m k).text.toList =
      Nat.toDigits 10 m ++ 'm' :: ' ' :: (Nat.toDigits 10 k ++ ['s']) := by
    simp [text]
  -- Only one of the two kinds has a point.
  have hkind (n m k : Nat) : (tenths n).text.toList ≠ (minutes m k).text.toList := by
    intro h
    have hmem : '.' ∈ (minutes m k).text.toList := by simp [← h, htenths]
    simp [hminutes, hpoint] at hmem
  refine ⟨fun h => ?_, fun h => h ▸ rfl⟩
  rw [← String.toList_inj] at h
  cases r with
  | tenths n =>
    cases s with
    | tenths l =>
      rw [htenths, htenths, List.append_cons_inj_of_notMem (hpoint _) (by simp [hpoint])] at h
      obtain ⟨hwhole, -, htenth⟩ := h
      rw [toDigits_inj] at hwhole
      rw [List.append_cancel_right_eq, toDigits_inj] at htenth
      congr 1
      omega
    | minutes m k => exact absurd h (hkind n m k)
  | minutes m k =>
    cases s with
    | tenths l => exact absurd h.symm (hkind l m k)
    | minutes a b =>
      rw [hminutes, hminutes, List.append_cons_inj_of_notMem (hunit _) (by simp [hunit]), List.cons.injEq,
        List.append_cancel_right_eq, toDigits_inj, toDigits_inj] at h
      rw [h.1, h.2.2.2]

end Reading

def Seconds.value? : Seconds → Option Rat
  | whole n => some n
  | real x => x.toRat?

variable {q : Rat}

def tenthsOf (q : Rat) : Nat := roundDiv (q.num.natAbs * 10) q.den

lemma oneDecimal_eq (q : Rat) : oneDecimal q = (Reading.tenths (tenthsOf q)).text := rfl

lemma clock_natCast (m k : Nat) : clock m k = (Reading.minutes m k).text := rfl

lemma abs_tenthsOf_sub_le (h : 0 ≤ q) : |(tenthsOf q : Rat) - 10 * q| ≤ 1 / 2 := by
  have hquotient : ((q.num.natAbs * 10 : Nat) : Rat) / q.den = 10 * q := by
    rw [Nat.cast_mul, mul_div_right_comm, natAbs_num_div_den, abs_of_nonneg h, mul_comm, Nat.cast_ofNat]
  rw [← hquotient]
  exact abs_roundDiv_sub_le q.den_pos

lemma tenthsOf_lt_iff (h : 0 ≤ q) : tenthsOf q < 600 ↔ q < 1199 / 20 := by
  obtain ⟨hlow, hhigh⟩ := abs_le.mp (abs_tenthsOf_sub_le h)
  constructor
  · intro hlt
    have hle : (tenthsOf q : Rat) ≤ 599 := by exact_mod_cast Nat.le_of_lt_succ hlt
    refine lt_of_le_of_ne (by linarith) ?_
    -- The tie goes to the even neighbour.
    rintro rfl
    exact absurd hlt (by decide +kernel)
  · intro hlt
    have hlt' : (tenthsOf q : Rat) < (600 : Nat) := by
      push_cast
      linarith
    exact Nat.cast_lt.mp hlt'

lemma toRat?_ofRat_intCast {n : Int} (h : n.natAbs ≤ 2 ^ 53) : (ofRat n).toRat? = some (n : Rat) := by
  have hratio : ofRat n = ofInt n := by simp [ofRat, ofInt]
  rw [hratio, toRat?_ofInt_of_le h]

lemma belowMinute_eq (q : Rat) : belowMinute q = q - 60 * ⌊q / 60⌋ := rfl

lemma belowMinute_bounds (q : Rat) : 0 ≤ belowMinute q ∧ belowMinute q < 60 := by
  have hle := Int.floor_le (q / 60)
  have hlt := Int.lt_floor_add_one (q / 60)
  rw [belowMinute_eq]
  constructor
  · linarith
  · linarith

lemma wholeMinutes_eq (h : 0 ≤ q) (hlt : q < 2 ^ 53) : wholeMinutes q = ⌊q / 60⌋ := by
  have hnonneg : 0 ≤ ⌊q / 60⌋ := Int.floor_nonneg.mpr (by positivity)
  have hle : (60 * ⌊q / 60⌋ : Rat) < 2 ^ 53 := by linarith [Int.floor_le (q / 60)]
  have hle' : 60 * ⌊q / 60⌋ < 2 ^ 53 := by exact_mod_cast hle
  have hdifference : q - belowMinute q = (60 * ⌊q / 60⌋ : Int) := by
    rw [belowMinute_eq]
    push_cast
    ring
  have hquotient : ((60 * ⌊q / 60⌋ : Int) : Rat) / 60 = ⌊q / 60⌋ := by
    push_cast
    ring
  have hexact : (ofRat ((ofRat (q - belowMinute q)).toRat?.getD 0 / 60)).toRat?.getD 0 = ⌊q / 60⌋ := by
    rw [hdifference, toRat?_ofRat_intCast (by omega), Option.getD_some, hquotient,
      toRat?_ofRat_intCast (by omega), Option.getD_some]
  have hwhole : ¬(1 / 2 : Rat) < ⌊q / 60⌋ - (⌊q / 60⌋ : Rat).floor := by
    rw [Rat.floor_intCast, sub_self]
    norm_num
  simp only [wholeMinutes, hexact]
  rw [if_neg hwhole, Rat.floor_intCast]

lemma isNegative_of_toRat? {x : Binary64} (hx : x.toRat? = some q) (h : 0 ≤ q) : x.isNegative = false := by
  obtain ⟨negative, m, e, rfl⟩ := exists_finite hx
  cases negative with
  | false => rfl
  | true =>
    rw [toRat?, twoPow_eq, if_pos rfl] at hx
    have hq := Option.some.inj hx
    have hpos : (0 : Rat) < 2 ^ e := zpow_pos two_pos e
    have hm : (m : Rat) ≤ 0 := by
      by_contra hm
      have hprod : 0 < (m : Rat) * 2 ^ e := mul_pos (not_le.mp hm) hpos
      linarith
    have hzero : m = 0 := Nat.le_zero.mp (by exact_mod_cast hm)
    rw [hzero]
    rfl

def reading (q : Rat) : Reading :=
  if 60 ≤ q then .minutes ⌊q / 60⌋₊ ⌊belowMinute q⌋₊ else .tenths (tenthsOf q)

lemma belowMinute_of_lt (h : 0 ≤ q) (hlt : q < 60) : belowMinute q = q := by
  have hzero : ⌊q / 60⌋ = 0 := Int.floor_eq_zero_iff.mpr ⟨by linarith, by linarith⟩
  rw [belowMinute_eq, hzero]
  simp

lemma text_reading (h : 0 ≤ q) : (reading q).text =
    if 0 < ⌊q / 60⌋ then clock ⌊q / 60⌋ ⌊belowMinute q⌋ else oneDecimal (belowMinute q) := by
  have hpos : 0 < ⌊q / 60⌋ ↔ 60 ≤ q := by
    rw [Int.floor_pos, one_le_div (by norm_num)]
  rw [reading]
  by_cases hle : 60 ≤ q
  · rw [if_pos hle, if_pos (hpos.mpr hle), ← Int.natCast_floor_eq_floor (by positivity),
      ← Int.natCast_floor_eq_floor (belowMinute_bounds q).1, clock_natCast]
  · rw [if_neg hle, if_neg (mt hpos.mp hle), belowMinute_of_lt h (not_le.mp hle), oneDecimal_eq]

lemma text_eq_reading {s : Seconds} (hs : s.value? = some q) (h : 0 ≤ q) (hlt : q < 2 ^ 53) :
    Duration.text s = .ok (reading q).text := by
  rw [text_reading h]
  cases s with
  | whole n =>
    obtain rfl : (n : Rat) = q := Option.some.inj hs
    have hn : ¬n < 0 := not_lt.mpr (Int.cast_nonneg_iff.mp h)
    have hminutes : ⌊(n : Rat) / 60⌋ = n / 60 := Rat.floor_intCast_div_natCast n 60
    have hbelow : belowMinute n = (n % 60 : Int) := by
      rw [belowMinute_eq, hminutes, Int.emod_def]
      push_cast
      rfl
    rw [hminutes, hbelow, Int.floor_intCast, Duration.text, if_neg hn]
    split <;> rfl
  | real x =>
    have hx : x.toRat? = some q := hs
    rw [Duration.text, isNegative_of_toRat? hx h, if_neg Bool.false_ne_true, hx]
    dsimp only
    rw [wholeMinutes_eq h hlt]
    split <;> rfl

lemma abs_value_reading_sub_lt (h : 0 ≤ q) : |(reading q).value - q| < 1 := by
  rw [reading]
  split
  · have hsplit := belowMinute_eq q
    have hle := Int.floor_le (belowMinute q)
    have hlt := Int.lt_floor_add_one (belowMinute q)
    rw [Reading.value, natCast_floor_eq_intCast_floor (by positivity),
      natCast_floor_eq_intCast_floor (belowMinute_bounds q).1, abs_lt]
    constructor
    · linarith
    · linarith
  · obtain ⟨hlow, hhigh⟩ := abs_le.mp (abs_tenthsOf_sub_le h)
    rw [Reading.value, abs_lt]
    constructor
    · linarith
    · linarith

lemma proper_reading (h : 0 ≤ q) (hnot : ¬(1199 / 20 ≤ q ∧ q < 60)) : (reading q).Proper := by
  rw [reading]
  split
  · rename_i hle
    constructor
    · exact Nat.le_floor (by rw [Nat.cast_one, one_le_div (by norm_num)]; exact hle)
    · exact (Nat.floor_lt (belowMinute_bounds q).1).mpr (belowMinute_bounds q).2
  · rename_i hle
    apply (tenthsOf_lt_iff h).mpr
    by_contra hge
    exact hnot ⟨not_lt.mp hge, not_le.mp hle⟩

lemma reading_of_le (hle : 1199 / 20 ≤ q) (hlt : q < 60) : reading q = .tenths 600 := by
  have h : 0 ≤ q := by linarith
  have hge : ¬tenthsOf q < 600 := mt (tenthsOf_lt_iff h).mp (not_lt.mpr hle)
  have hupper : (tenthsOf q : Rat) < (601 : Nat) := by
    obtain ⟨-, hhigh⟩ := abs_le.mp (abs_tenthsOf_sub_le h)
    push_cast
    linarith
  have hupper' : tenthsOf q < 601 := Nat.cast_lt.mp hupper
  rw [reading, if_neg (not_le.mpr hlt)]
  congr 1
  omega

/--
Every number of seconds from zero to `2 ^ 53` is told by one reading, less than a second away from
it. Where the seconds are rounded up to a minute it is sixty seconds, otherwise a proper one.
-/
theorem text_is_reading (s : Seconds) (hs : s.value? = some q) (h : 0 ≤ q) (hlt : q < 2 ^ 53) :
    ∃ r : Reading, (∀ other : Reading, Duration.text s = .ok other.text ↔ other = r) ∧
      |r.value - q| < 1 ∧ (if 1199 / 20 ≤ q ∧ q < 60 then r = .tenths 600 else r.Proper) := by
  refine ⟨reading q, fun other => ?_, abs_value_reading_sub_lt h, ?_⟩
  · rw [text_eq_reading hs h hlt, Except.ok.injEq, Reading.text_inj, eq_comm]
  · split
    · rename_i hminute
      exact reading_of_le hminute.1 hminute.2
    · rename_i hminute
      exact proper_reading h hminute

theorem text_is_reading_past_a_minute :
    let s := Seconds.real (.ofDecimal false 652 (-1))
    let q := mkRat 4588042120383693 70368744177664
    s.value? = some q ∧ 0 ≤ q ∧ q < 2 ^ 53 ∧ Duration.text s = .ok "1m 5s" ∧
      |(Reading.minutes 1 5).value - q| < 1 ∧ (Reading.minutes 1 5).Proper := by
  intro s q
  have hs : s.value? = some q := by decide +kernel
  have h : 0 ≤ q := by decide +kernel
  have hlt : q < 2 ^ 53 := by decide +kernel
  have hminute : ¬(1199 / 20 ≤ q ∧ q < 60) := by decide +kernel
  have hreading : reading q = .minutes 1 5 := by decide +kernel
  have htext : Duration.text s = .ok (Reading.minutes 1 5).text := by rw [text_eq_reading hs h hlt, hreading]
  obtain ⟨r, hr, hnear, hproper⟩ := text_is_reading s hs h hlt
  rw [if_neg hminute] at hproper
  rw [← (hr _).mp htext] at hnear hproper
  exact ⟨hs, h, hlt, htext, hnear, hproper⟩

/-- Sixty seconds are shown for 59.96, and no proper reading has this text. -/
theorem text_just_below_a_minute :
    let s := Seconds.real (.ofDecimal false 5996 (-2))
    let q := mkRat 8438619801785467 140737488355328
    s.value? = some q ∧ 0 ≤ q ∧ q < 60 ∧
      Duration.text s = .ok "60.0s" ∧ ¬∃ r : Reading, r.Proper ∧ Duration.text s = .ok r.text := by
  intro s q
  have hs : s.value? = some q := by decide +kernel
  have h : 0 ≤ q := by decide +kernel
  have hlt : q < 60 := by decide +kernel
  have hle : 1199 / 20 ≤ q := by decide +kernel
  have htext : Duration.text s = .ok (Reading.tenths 600).text := by
    rw [text_eq_reading hs h (by linarith), reading_of_le hle hlt]
  refine ⟨hs, h, hlt, htext, ?_⟩
  rintro ⟨r, hproper, hr⟩
  rw [htext, Except.ok.injEq, Reading.text_inj] at hr
  subst hr
  exact Nat.lt_irrefl 600 hproper

end ApiScaffold.Duration
