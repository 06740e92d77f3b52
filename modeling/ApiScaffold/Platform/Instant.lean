import ApiScaffold.Numeric.Binary64

namespace ApiScaffold

structure Instant where
  micros : Int

namespace Instant

def daysOfDate (year month day : Int) : Int :=
  let y := if month ≤ 2 then year - 1 else year
  let m := if month ≤ 2 then month + 9 else month - 3
  365 * y + y / 4 - y / 100 + y / 400 + (153 * m + 2) / 5 + day - 1 - 719468

def ofLocal (year month day hour minute second micro offset : Int) : Instant :=
  let minutes := (daysOfDate year month day * 24 + hour) * 60 + minute - offset
  ⟨(minutes * 60 + second) * 1000000 + micro⟩

def seconds (t : Instant) : Binary64 := .ofRatio (t.micros < 0) t.micros.natAbs 1000000

def truncate (q : Rat) : Int := if q < 0 then q.ceil else q.floor

/-- Milliseconds, through floating point: the seconds and their product with 1000 are rounded. -/
def version (t : Instant) : Int :=
  match t.seconds.toRat? with
  | some s => truncate ((Binary64.ofRat (s * 1000)).toRat?.getD 0)
  | none => 0

end Instant

end ApiScaffold
