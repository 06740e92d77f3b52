import ApiScaffold.Proofs.Numeric.Clock

namespace ApiScaffold.Duration

open Binary64

/-- A reading of a monotonic clock, which counts nanoseconds in 64 bits: far from `2 ^ 53` seconds. -/
structure Instant where
  seconds : Seconds
  value : Rat
  value?_eq : seconds.value? = some value
  abs_le : |value| ≤ 2 ^ 53

variable {start stop : Instant} {x y : Binary64} {p q : Rat}

lemma Instant.toRat?_toReal (t : Instant) : t.seconds.toReal.toRat? = some t.value := by
  obtain ⟨seconds, value, hvalue, hle⟩ := t
  cases seconds with
  | whole n =>
    obtain rfl : (n : Rat) = value := Option.some.inj hvalue
    have hexact : (n.natAbs : Int) ≤ 2 ^ 53 := Int.abs_eq_natAbs n ▸ (by exact_mod_cast hle)
    exact toRat?_ofInt_of_le (by omega)
  | real x => exact hvalue

lemma sub_eq_ofRat (hx : x.toRat? = some p) (hy : y.toRat? = some q) : x.sub y = .ofRat (p - q) := by
  obtain ⟨_, _, _, rfl⟩ := exists_finite hx
  obtain ⟨_, _, _, rfl⟩ := exists_finite hy
  rw [Binary64.sub, hx, hy]

lemma elapsed_eq (start stop : Instant) :
    elapsed start.seconds stop.seconds = .ofRat (stop.value - start.value) := by
  have hsub := sub_eq_ofRat stop.toRat?_toReal start.toRat?_toReal
  obtain ⟨first, p, hfirst, _⟩ := start
  obtain ⟨last, q, hlast, _⟩ := stop
  cases first with
  | real x => exact hsub
  | whole a =>
    cases last with
    | real y => exact hsub
    | whole b =>
      obtain rfl : (a : Rat) = p := Option.some.inj hfirst
      obtain rfl : (b : Rat) = q := Option.some.inj hlast
      show ofInt (b - a) = ofRat (b - a)
      rw [← Int.cast_sub, ofInt, ofRat, Rat.num_intCast, Rat.den_intCast,
        decide_eq_decide.mpr Int.cast_lt_zero]

lemma exists_toRat?_elapsed (h : start.value ≤ stop.value) :
    ∃ q, 0 ≤ q ∧ (elapsed start.seconds stop.seconds).toRat? = some q := by
  have hbound : |stop.value - start.value| < 2 ^ (1023 : Int) := calc
    |stop.value - start.value| ≤ |stop.value| + |start.value| := abs_sub _ _
    _ ≤ 2 ^ 53 + 2 ^ 53 := add_le_add stop.abs_le start.abs_le
    _ < 2 ^ (1023 : Int) := by
      rw [← two_mul, ← pow_succ', ← zpow_natCast]
      exact zpow_lt_zpow_right₀ one_lt_two (by decide)
  obtain ⟨q, hq, hrounds⟩ := exists_rounds_ofRat hbound
  exact ⟨q, hrounds.nonneg (sub_nonneg.mpr h), elapsed_eq start stop ▸ hq⟩

lemma exists_text (h : 0 ≤ q) (hx : x.toRat? = some q) :
    ∃ text, Duration.text (.real x) = .ok text ∧ '[' ∉ text.toList := by
  have hclock (minutes seconds : Int) : '[' ∉ (clock minutes seconds).toList := by
    simp [clock, notMem_repr]
  have hdecimal (q : Rat) : '[' ∉ (oneDecimal q).toList := by
    simp [oneDecimal, notMem_toDigits]
  simp only [Duration.text, isNegative_of_toRat? hx h, hx]
  split
  · exact absurd ‹_› Bool.false_ne_true
  · split
    · exact ⟨_, rfl, hclock _ _⟩
    · exact ⟨_, rfl, hdecimal _⟩

end ApiScaffold.Duration
