/-
Module: Reckon.Number.Shortest
Purpose: The decimal with the fewest digits that reads back as a given float. The reals that round
  to a positive float `m * 2 ^ q` form an interval around it, reaching half a unit up and half a
  unit down (a quarter of a unit down where the spacing of the floats halves), with its ends
  included exactly if `m` is even. The search takes decimal grids from coarse to fine and stops at
  the first that has a point in the interval; of a grid only the two neighbours of the value can be
  such points.
Main exports: Decimal, Magnitude, Magnitude.shortest
-/

namespace Reckon

/-- The number `coefficient * 10 ^ exponent`. -/
structure Decimal where
  coefficient : Nat
  exponent : Int
deriving DecidableEq, Repr, Inhabited

/-- The positive number `significand * 2 ^ exponent`, as the fields of a float give it. -/
structure Magnitude where
  significand : Nat
  exponent : Int
deriving DecidableEq, Repr, Inhabited

/-- Compares `c * 10 ^ k` with `t * 2 ^ e`, both multiplied up to whole numbers. -/
def compareScaled (c : Nat) (k : Int) (t : Nat) (e : Int) : Ordering :=
  compare (c * Nat.pow 10 k.toNat * Nat.pow 2 (-e).toNat)
    (t * Nat.pow 2 e.toNat * Nat.pow 10 (-k).toNat)

/-- The number of decimal digits of a natural number. -/
def digitCount (n : Nat) : Nat :=
  (Nat.toDigits 10 n).length

namespace Magnitude

/-- How far the interval reaches down, in quarters of a unit of the last binary place. -/
def reachDown (x : Magnitude) : Nat :=
  if x.significand = Nat.pow 2 52 ∧ -1074 < x.exponent then 1 else 2

/-- Whether `c * 10 ^ k` lies in the interval of the numbers that round to `x`. -/
def covers (x : Magnitude) (c : Nat) (k : Int) : Bool :=
  let low := compareScaled c k (4 * x.significand - x.reachDown) (x.exponent - 2)
  let high := compareScaled c k (4 * x.significand + 2) (x.exponent - 2)
  if x.significand % 2 = 0 then low != .lt && high != .gt
  else low == .gt && high == .lt

/-- The greatest `d` with `d * 10 ^ k ≤ x`. -/
def floorAt (x : Magnitude) (k : Int) : Nat :=
  (x.significand * Nat.pow 2 x.exponent.toNat * Nat.pow 10 (-k).toNat) /
    (Nat.pow 10 k.toNat * Nat.pow 2 (-x.exponent).toNat)

/-- The point of the grid of multiples of `10 ^ k` that stands for `x`, if one reads back as `x`: of
two the nearer, and the upper one when both are equally near. -/
def pointAt? (x : Magnitude) (k : Int) : Option Nat :=
  let d := x.floorAt k
  match x.covers d k, x.covers (d + 1) k with
  | true, true =>
    if compareScaled (2 * d + 1) k (2 * x.significand) x.exponent = .gt then some d
      else some (d + 1)
  | true, false => some d
  | false, true => some (d + 1)
  | false, false => none

/-- The value of `x` itself, with all its digits. -/
def exact (x : Magnitude) : Decimal :=
  -- Below the point, a half is five tenths.
  ⟨x.significand * Nat.pow 2 x.exponent.toNat * Nat.pow 5 (-x.exponent).toNat, min x.exponent 0⟩

/-- The least `p` with `x < 10 ^ p`. -/
def pointPlace (x : Magnitude) : Int :=
  let numerator := x.significand * Nat.pow 2 x.exponent.toNat
  let denominator := Nat.pow 2 (-x.exponent).toNat
  let p : Int := digitCount numerator - digitCount denominator
  if compareScaled 1 p x.significand x.exponent = .gt then p else p + 1

/-- The first grid at or below `10 ^ k` that has a point for `x`; after `steps` grids without one,
`x` itself. -/
def search (x : Magnitude) : (steps : Nat) → (k : Int) → Decimal
  | 0, _ => x.exact
  | steps + 1, k =>
    match x.pointAt? k with
    | some c => ⟨c, k⟩
    | none => x.search steps (k - 1)

/-- The decimal with the fewest digits that reads back as `x`. Seventeen digits always do, and the
first grid has none, so eighteen grids are enough. -/
def shortest (x : Magnitude) : Decimal :=
  x.search 18 x.pointPlace

end Magnitude

end Reckon
