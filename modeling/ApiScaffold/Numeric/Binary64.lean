/-!
Binary floating point of 53 significant bits, by exact value: `finite` stands for
`± significand * 2 ^ exponent`. Results are rounded to the nearest number, a tie to the even one.
-/

namespace ApiScaffold

inductive Binary64 where
  | nan
  | infinite (negative : Bool)
  | finite (negative : Bool) (significand : Nat) (exponent : Int)
  deriving DecidableEq

namespace Binary64

/-- The natural number nearest to a quotient, a half going to the even neighbour. -/
def roundDiv (num den : Nat) : Nat :=
  let q := num / den
  let r := num % den
  if 2 * r < den ∨ (2 * r = den ∧ q % 2 = 0) then q else q + 1

def floorLog2 (num den : Nat) : Int :=
  let k : Int := (num.log2 : Int) - den.log2
  if den * Nat.pow 2 k.toNat ≤ num * Nat.pow 2 (-k).toNat then k else k - 1

def minExponent : Int := -1074

def maxExponent : Int := 971

def ofRatio (negative : Bool) (num den : Nat) : Binary64 :=
  if num = 0 then finite negative 0 minExponent
  else
    let e := max (floorLog2 num den - 52) minExponent
    let m := roundDiv (num * Nat.pow 2 (-e).toNat) (den * Nat.pow 2 e.toNat)
    let (m, e) := if m = Nat.pow 2 53 then (Nat.pow 2 52, e + 1) else (m, e)
    if maxExponent < e then infinite negative else finite negative m e

def ofRat (q : Rat) : Binary64 := ofRatio (q < 0) q.num.natAbs q.den

def ofInt (n : Int) : Binary64 := ofRatio (n < 0) n.natAbs 1

def twoPow (e : Int) : Rat := mkRat (Nat.pow 2 e.toNat) (Nat.pow 2 (-e).toNat)

def toRat? : Binary64 → Option Rat
  | finite negative m e => some ((if negative then -1 else 1) * m * twoPow e)
  | _ => none

def ofDecimal (negative : Bool) (digits : Nat) (exponent : Int) : Binary64 :=
  let magnitude : Int := (Nat.toDigits 10 digits).length + exponent
  if digits = 0 ∨ magnitude < -400 then finite negative 0 minExponent
  else if 400 < magnitude then infinite negative
  else ofRatio negative (digits * Nat.pow 10 exponent.toNat) (Nat.pow 10 (-exponent).toNat)

def isZero : Binary64 → Bool
  | finite _ 0 _ => true
  | _ => false

def isNegative : Binary64 → Bool
  | nan => false
  | infinite negative => negative
  | finite negative m _ => negative && m != 0

def sub (x y : Binary64) : Binary64 :=
  match x, y with
  | nan, _ | _, nan => nan
  | infinite a, infinite b => if a = b then nan else infinite a
  | infinite a, finite .. => infinite a
  | finite .., infinite b => infinite !b
  | finite .., finite .. =>
    match x.toRat?, y.toRat? with
    | some a, some b => ofRat (a - b)
    | _, _ => nan

end Binary64

end ApiScaffold
