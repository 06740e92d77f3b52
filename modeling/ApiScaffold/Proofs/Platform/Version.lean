import ApiScaffold.Platform.Offline
import ApiScaffold.Proofs.Numeric.Rounding

/-!
The version of what is kept without a connection. It goes through two roundings and yet never runs
back, and from 1970 on it is the number of whole milliseconds or next to it.
-/

namespace ApiScaffold

open Binary64

namespace Instant

variable {p q : Rat}

lemma truncate_of_nonneg (h : 0 ≤ q) : truncate q = ⌊q⌋ := if_neg (not_lt.mpr h)

lemma truncate_of_neg (h : q < 0) : truncate q = ⌈q⌉ := by
  rw [truncate, if_pos h, Rat.ceil_eq_neg_floor_neg]
  rfl

lemma truncate_mono (h : p ≤ q) : truncate p ≤ truncate q := by
  rcases lt_or_ge q 0 with hq | hq
  · rw [truncate_of_neg hq, truncate_of_neg (h.trans_lt hq)]
    exact Int.ceil_mono h
  · rw [truncate_of_nonneg hq]
    rcases lt_or_ge p 0 with hp | hp
    · rw [truncate_of_neg hp]
      exact (Int.ceil_le.mpr (by simpa using hp.le)).trans (Int.floor_nonneg.mpr hq)
    · rw [truncate_of_nonneg hp]
      exact Int.floor_mono h

variable {t u : Instant} {s r s' r' : Rat}

structure Stamp (t : Instant) (s r : Rat) : Prop where
  seconds_eq : t.seconds.toRat? = some s
  product_eq : (ofRat (s * 1000)).toRat? = some r
  seconds : Rounds (t.micros / 1000000) s
  product : Rounds (s * 1000) r

lemma Stamp.version_eq (h : Stamp t s r) : t.version = truncate r := by
  rw [version, h.seconds_eq]
  dsimp only
  rw [h.product_eq, Option.getD_some]

lemma exists_stamp (h : |t.micros| < 2 ^ 58) : ∃ s r, Stamp t s r := by
  have hmicros : |(t.micros : Rat)| < 2 ^ 58 := by exact_mod_cast h
  have hlarge : (2 : Rat) ^ (58 : Int) < 2 ^ (1023 : Int) := zpow_lt_zpow_right₀ one_lt_two (by decide)
  rw [show (2 : Rat) ^ (58 : Int) = 2 ^ 58 from zpow_ofNat 2 58] at hlarge
  have hquotient : (t.micros.natAbs : Rat) / (1000000 : Nat) < 2 ^ 58 := by
    rw [Nat.cast_natAbs, Int.cast_abs]
    exact (div_le_self (abs_nonneg _) (by norm_num)).trans_lt hmicros
  obtain ⟨s, hs, hseconds⟩ := exists_rounds_int t.micros (show 1000000 ≠ 0 by decide) (hquotient.trans hlarge)
  have hbound : |s * 1000| < 2 ^ 58 := by
    have hle := hseconds.abs_le
    rw [abs_div, Nat.abs_cast] at hle
    push_cast at hle
    rw [abs_mul, abs_of_pos (by norm_num : (0 : Rat) < 1000)]
    linarith
  obtain ⟨r, hr, hproduct⟩ := exists_rounds_ofRat (hbound.trans hlarge)
  exact ⟨s, r, hs, hr, by exact_mod_cast hseconds, hproduct⟩

lemma Stamp.mono (h : Stamp t s r) (h' : Stamp u s' r') (hle : t.micros ≤ u.micros) : r ≤ r' := by
  have hseconds : s ≤ s' := by
    rcases hle.eq_or_lt with heq | hlt
    · have hsame : t.seconds = u.seconds := by rw [Instant.seconds, Instant.seconds, heq]
      have hs := h.seconds_eq
      rw [hsame, h'.seconds_eq] at hs
      exact (Option.some.inj hs).ge
    · refine h.seconds.mono h'.seconds (div_lt_div_of_pos_right ?_ (by norm_num))
      exact_mod_cast hlt
  rcases hseconds.eq_or_lt with rfl | hlt
  · have hr := h.product_eq
    rw [h'.product_eq] at hr
    exact (Option.some.inj hr).ge
  · exact h.product.mono h'.product (mul_lt_mul_of_pos_right hlt (by norm_num))

lemma two_zpow_le (h : (1 : Rat) / 1000000 ≤ q) : (2 : Rat) ^ (-1022 : Int) ≤ |q| := by
  have hpow : (2 : Rat) ^ (-1022 : Int) ≤ 2 ^ (-20 : Int) := zpow_le_zpow_right₀ one_le_two (by decide)
  have hmicro : (2 : Rat) ^ (-20 : Int) ≤ 1 / 1000000 := by norm_num
  exact hpow.trans (hmicro.trans (h.trans (le_abs_self q)))

lemma Stamp.near (h : Stamp t s r) (hnonneg : 0 ≤ t.micros) (hbound : t.micros < 2 ^ 58) :
    0 ≤ r ∧ |r - t.micros / 1000| < 1 := by
  rcases hnonneg.eq_or_lt with hzero | hpos
  · have hs : s = 0 := by simpa [← hzero] using h.seconds.abs_le
    have hr : r = 0 := by simpa [hs] using h.product.abs_le
    simp [← hzero, hr]
  · have hone : (1 : Rat) ≤ t.micros := by exact_mod_cast hpos
    have hlt : (t.micros : Rat) < 2 ^ 58 := by exact_mod_cast hbound
    have hexact : |(t.micros : Rat) / 1000000| = t.micros / 1000000 := abs_of_pos (by linarith)
    have hseconds := h.seconds.close (two_zpow_le (by linarith))
    rw [hexact, abs_le] at hseconds
    obtain ⟨hlow, hhigh⟩ := hseconds
    have hrounded : |s * 1000| = s * 1000 := abs_of_pos (by linarith)
    have hproduct := h.product.close (two_zpow_le (by linarith))
    rw [hrounded, abs_le] at hproduct
    obtain ⟨hlow', hhigh'⟩ := hproduct
    exact ⟨by linarith, abs_lt.mpr ⟨by linarith, by linarith⟩⟩

lemma Stamp.version_near (h : Stamp t s r) (hnonneg : 0 ≤ t.micros) (hbound : t.micros < 2 ^ 58) :
    |t.version - t.micros / 1000| ≤ 1 := by
  obtain ⟨hr, hnear⟩ := h.near hnonneg hbound
  have hfloor : ⌊(t.micros : Rat) / 1000⌋ = t.micros / 1000 := Rat.floor_intCast_div_natCast t.micros 1000
  obtain ⟨hlow, hhigh⟩ := abs_lt.mp hnear
  rw [h.version_eq, truncate_of_nonneg hr, ← hfloor, abs_le]
  have hle : ⌊r⌋ ≤ ⌊(t.micros : Rat) / 1000⌋ + 1 := by
    rw [← Int.floor_add_one]
    exact Int.floor_mono (by linarith)
  have hge : ⌊(t.micros : Rat) / 1000⌋ ≤ ⌊r⌋ + 1 := by
    rw [← Int.floor_add_one]
    exact Int.floor_mono (by linarith)
  omega

end Instant

def daysInMonth (year month : Int) : Int :=
  if month = 2 then if year % 4 = 0 ∧ (year % 100 ≠ 0 ∨ year % 400 = 0) then 29 else 28
  else if month = 4 ∨ month = 6 ∨ month = 9 ∨ month = 11 then 30
  else 31

/--
A date and a time of day by a clock that is `ahead` of universal time, in microseconds, by less than
a day.
-/
structure DateTime where
  year : Int
  month : Int
  day : Int
  hour : Int
  minute : Int
  second : Int
  micro : Int
  ahead : Int
  year_mem : 1 ≤ year ∧ year ≤ 9999
  month_mem : 1 ≤ month ∧ month ≤ 12
  day_mem : 1 ≤ day ∧ day ≤ daysInMonth year month
  hour_mem : 0 ≤ hour ∧ hour < 24
  minute_mem : 0 ≤ minute ∧ minute < 60
  second_mem : 0 ≤ second ∧ second < 60
  micro_mem : 0 ≤ micro ∧ micro < 1000000
  ahead_mem : -86400000000 < ahead ∧ ahead < 86400000000

namespace DateTime

def instant (d : DateTime) : Instant :=
  ⟨(Instant.ofLocal d.year d.month d.day d.hour d.minute d.second d.micro 0).micros - d.ahead⟩

lemma daysOfDate_bounds (d : DateTime) :
    -719469 < Instant.daysOfDate d.year d.month d.day ∧
    Instant.daysOfDate d.year d.month d.day < 2932960 := by
  have hyear := d.year_mem
  have hmonth := d.month_mem
  have hday : 1 ≤ d.day ∧ d.day ≤ 31 := by
    refine ⟨d.day_mem.1, d.day_mem.2.trans ?_⟩
    rw [daysInMonth]
    split_ifs <;> decide
  rw [Instant.daysOfDate]
  split_ifs <;> omega

lemma abs_micros_lt (d : DateTime) : |d.instant.micros| < 2 ^ 58 := by
  have hdays := d.daysOfDate_bounds
  have hhour := d.hour_mem
  have hminute := d.minute_mem
  have hsecond := d.second_mem
  have hmicro := d.micro_mem
  have hahead := d.ahead_mem
  rw [abs_lt, instant, Instant.ofLocal]
  dsimp only
  omega

end DateTime

namespace Offline

/--
At a later instant the block of an operation has no lesser version, and a version is the number of
whole milliseconds since the start of 1970, or next to it, unless it is before. An operation that is
not cached has no version at all.
-/
theorem version_never_runs_back (operation : String) (routes : List Route) (d e : DateTime)
    (h : d.instant.micros ≤ e.instant.micros) :
    (policyOf operation routes).cacheable = false ∧
      flags operation routes d.instant = notCached ∧ flags operation routes e.instant = notCached ∨
    ∃ ttl v w, policyOf operation routes = .cached ttl ∧
      flags operation routes d.instant =
        .map [("cacheable", .bool true), ("ttl", .int ttl), ("version", .int v)] ∧
      flags operation routes e.instant =
        .map [("cacheable", .bool true), ("ttl", .int ttl), ("version", .int w)] ∧
      v ≤ w ∧
      (0 ≤ d.instant.micros → |v - d.instant.micros / 1000| ≤ 1) ∧
      (0 ≤ e.instant.micros → |w - e.instant.micros / 1000| ≤ 1) := by
  obtain ⟨s, r, hd⟩ := Instant.exists_stamp d.abs_micros_lt
  obtain ⟨s', r', he⟩ := Instant.exists_stamp e.abs_micros_lt
  cases hpolicy : policyOf operation routes with
  | cached ttl =>
    refine .inr ⟨ttl, d.instant.version, e.instant.version, rfl, ?_, ?_, ?_, fun hnonneg => ?_,
      fun hnonneg => ?_⟩
    · rw [flags, hpolicy]
    · rw [flags, hpolicy]
    · rw [hd.version_eq, he.version_eq]
      exact Instant.truncate_mono (hd.mono he h)
    · exact hd.version_near hnonneg (abs_lt.mp d.abs_micros_lt).2
    · exact he.version_near hnonneg (abs_lt.mp e.abs_micros_lt).2
  | queued => exact .inl ⟨rfl, by rw [flags, hpolicy], by rw [flags, hpolicy]⟩
  | none => exact .inl ⟨rfl, by rw [flags, hpolicy], by rw [flags, hpolicy]⟩

theorem version_never_runs_back_late :
    let d : DateTime :=
      ⟨1970, 1, 1, 1, 0, 0, 0, 3600000500, by decide, by decide, by decide, by decide, by decide, by decide,
      by decide, by decide⟩
    let e : DateTime :=
      ⟨2004, 4, 2, 20, 0, 22, 307000, 0, by decide, by decide, by decide, by decide, by decide, by decide,
      by decide, by decide⟩
    let table := RouteTable.ofDomains [⟨"user"⟩]
    d.instant.micros ≤ e.instant.micros ∧ ∃ v w,
      flags "getUser" table d.instant =
        .map [("cacheable", .bool true), ("ttl", .int 3600), ("version", .int v)] ∧
      flags "getUser" table e.instant =
        .map [("cacheable", .bool true), ("ttl", .int 3600), ("version", .int w)] ∧
      v ≤ w ∧ |w - 1080936022307| ≤ 1 ∧ e.instant.version = 1080936022306 := by
  intro d e table
  have hle : d.instant.micros ≤ e.instant.micros := by decide
  have hpolicy : policyOf "getUser" table = .cached 3600 := by decide +kernel
  have hnonneg : 0 ≤ e.instant.micros := by decide
  rcases version_never_runs_back "getUser" table d e hle with ⟨hnone, -⟩ | ⟨ttl, v, w, httl, hd,
    he, hvw, -, hnear⟩
  · rw [hpolicy] at hnone
    cases hnone
  · cases httl.symm.trans hpolicy
    exact ⟨hle, v, w, hd, he, hvw, hnear hnonneg, by decide +kernel⟩

end Offline

end ApiScaffold
