import ApiScaffold.Numeric.Binary64

namespace ApiScaffold.Duration

inductive Seconds where
  | whole (n : Int)
  | real (x : Binary64)

def Seconds.toReal : Seconds → Binary64
  | whole n => .ofInt n
  | real x => x

def elapsed : Seconds → Seconds → Binary64
  | .whole start, .whole stop => .ofInt (stop - start)
  | start, stop => stop.toReal.sub start.toReal

inductive Fault where
  | notANumber

def Fault.message : Fault → String
  | .notANumber => "cannot convert float NaN to integer"

def clock (minutes seconds : Int) : String := toString minutes ++ "m " ++ toString seconds ++ "s"

def oneDecimal (q : Rat) : String :=
  let tenths := Binary64.roundDiv (q.num.natAbs * 10) q.den
  toString (tenths / 10) ++ "." ++ toString (tenths % 10) ++ "s"

def belowMinute (q : Rat) : Rat := q - 60 * (q / 60).floor

/-- The whole minutes in floating point: both the difference and the quotient are rounded. -/
def wholeMinutes (q : Rat) : Int :=
  let rounded := fun x : Rat => (Binary64.ofRat x).toRat?.getD 0
  let quotient := rounded (rounded (q - belowMinute q) / 60)
  if 1 / 2 < quotient - quotient.floor then quotient.floor + 1 else quotient.floor

def text : Seconds → Except Fault String
  | .whole n =>
    if n < 0 then .ok "0.0s"
    else if 0 < n / 60 then .ok (clock (n / 60) (n % 60))
    else .ok (oneDecimal (n % 60 : Int))
  | .real x =>
    if x.isNegative then .ok "0.0s"
    else
      match x.toRat? with
      | none => .error .notANumber
      | some q =>
        let minutes := wholeMinutes q
        if 0 < minutes then .ok (clock minutes (belowMinute q).floor) else .ok (oneDecimal (belowMinute q))

end ApiScaffold.Duration
