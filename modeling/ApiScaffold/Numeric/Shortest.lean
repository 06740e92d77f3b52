import ApiScaffold.Numeric.Binary64

/-!
The shortest decimal text of a binary number: the fewest digits that read back as the number,
nearest to it among those. Numbers from `10 ^ -4` up to `10 ^ 16` are written positionally.
-/

namespace ApiScaffold.Binary64

def tenPow (e : Int) : Rat := mkRat (Nat.pow 10 e.toNat) (Nat.pow 10 (-e).toNat)

def floorLog10 (q : Rat) : Int :=
  let e := floorLog2 q.num.natAbs q.den * 30103 / 100000
  if q < tenPow e then e - 1 else if tenPow (e + 1) ≤ q then e + 1 else e

/-- The numbers that round to `m * 2 ^ e`, by their ends; the ends belong to them iff `m` is even. -/
def neighbourhood (m : Nat) (e : Int) : Rat × Rat :=
  let below : Rat := if m = Nat.pow 2 52 ∧ minExponent < e then 1 / 4 else 1 / 2
  ((m - below) * twoPow e, (m + 1 / 2) * twoPow e)

def inNeighbourhood (m : Nat) (e : Int) (q : Rat) : Bool :=
  let (low, high) := neighbourhood m e
  if m % 2 = 0 then low ≤ q && q ≤ high else low < q && q < high

/-- The better neighbour of `m * 2 ^ e` on the grid of the multiples of `10 ^ k`, if one reads back. -/
def onGrid? (m : Nat) (e k : Int) : Option Nat :=
  let q : Rat := m * twoPow e
  let below := (q / tenPow k).floor.toNat
  let value (n : Nat) : Rat := n * tenPow k
  match inNeighbourhood m e (value below), inNeighbourhood m e (value (below + 1)) with
  | true, true =>
    let down := q - value below
    let up := value (below + 1) - q
    if down < up ∨ (down = up ∧ below % 2 = 0) then some below else some (below + 1)
  | true, false => some below
  | false, true => some (below + 1)
  | false, false => none

/-- Digits and exponent of ten of the shortest decimal that reads back as `m * 2 ^ e`, for `0 < m`. -/
def shortest (m : Nat) (e : Int) : Nat × Int :=
  let top := floorLog10 (m * twoPow e)
  let grids := (List.range 17).map fun n : Nat => top - (n : Int)
  match grids.findSome? fun k => (onGrid? m e k).map (·, k) with
  | some found => found
  | none => (m, 0)

def positional (digits : List Char) (point : Int) : List Char :=
  if point ≤ 0 then '0' :: '.' :: List.replicate (-point).toNat '0' ++ digits
  else if digits.length ≤ point then
    digits ++ List.replicate (point.toNat - digits.length) '0' ++ ['.', '0']
  else digits.take point.toNat ++ '.' :: digits.drop point.toNat

def scientific (digits : List Char) (exponent : Int) : List Char :=
  let power := Nat.toDigits 10 exponent.natAbs
  let fraction := if digits.length ≤ 1 then [] else '.' :: digits.drop 1
  digits.take 1 ++ fraction ++ ['e', if exponent < 0 then '-' else '+']
    ++ List.replicate (2 - power.length) '0' ++ power

def magnitudeText (m : Nat) (e : Int) : List Char :=
  let (n, k) := shortest m e
  let all := Nat.toDigits 10 n
  let digits := (all.reverse.dropWhile (· == '0')).reverse
  let point := all.length + k
  if -4 < point ∧ point ≤ 16 then positional digits point else scientific digits (point - 1)

structure Spelling where
  nan : String
  infinity : String

def text (spelling : Spelling) : Binary64 → String
  | nan => spelling.nan
  | infinite negative => (if negative then "-" else "") ++ spelling.infinity
  | finite negative m e =>
    (if negative then "-" else "") ++ if m = 0 then "0.0" else String.ofList (magnitudeText m e)

end ApiScaffold.Binary64
