/-
Module: Reckon.Number.FloatContent
Purpose: What a 64-bit float stands for, as exact whole numbers. A finite float is its sign times
  `significand * 2 ^ exponent`, so its floor, whether it is an integer, and the remainder of one
  float by another are questions about natural numbers and powers of two.
Main exports: FloatContent, FloatContent.ofFloat, FloatContent.floor?, FloatContent.integer?,
  floatRemainder
-/

namespace Reckon

/-- The exact content of a 64-bit float. -/
inductive FloatContent where
  | nan
  | infinite (negative : Bool)
  | finite (negative : Bool) (significand : Nat) (exponent : Int)
deriving DecidableEq, Repr, Inhabited

namespace FloatContent

/-- Reads the three fields of the 64-bit interchange format: sign, biased exponent, fraction. -/
def ofFloat (x : Float) : FloatContent :=
  let bits : Nat := x.toBits.toNat
  let negative := decide (bits / Nat.pow 2 63 = 1)
  let biased : Nat := bits / Nat.pow 2 52 % Nat.pow 2 11
  let fraction : Nat := bits % Nat.pow 2 52
  if biased = 2047 then
    if fraction = 0 then .infinite negative else .nan
  else if biased = 0 then .finite negative fraction (-1074)
  else .finite negative (Nat.pow 2 52 + fraction) ((biased : Int) - 1075)

/-- A natural number with a sign. -/
def signed (negative : Bool) (n : Nat) : Int :=
  if negative then -n else n

/-- The greatest integer that is not above the value. -/
def floor? : FloatContent → Option Int
  | .finite negative significand exponent =>
    -- Division by a power of two rounds down, also below zero.
    some (signed negative (significand * Nat.pow 2 exponent.toNat) / Nat.pow 2 (-exponent).toNat)
  | _ => none

/-- The integer equal to the value, if there is one. -/
def integer? : FloatContent → Option Int
  | .finite negative significand exponent =>
    if significand * Nat.pow 2 exponent.toNat % Nat.pow 2 (-exponent).toNat = 0 then
      (FloatContent.finite negative significand exponent).floor?
    else none
  | _ => none

end FloatContent

/-- The float nearest to `n * 2 ^ exponent`. -/
def floatOfScaled (n : Int) (exponent : Int) : Float :=
  .ofModel (.pack (.normalize .binary64 n exponent .positive))

/-- The remainder of `a` by `b` that has the sign of `a`: what is left of `a` after taking `b` away
a whole number of times, as often as its magnitude allows. It is exact. An infinite `b` leaves `a`
as it is; an infinite `a` and a zero `b` leave no number. -/
def floatRemainder (a b : Float) : Float :=
  match FloatContent.ofFloat a, FloatContent.ofFloat b with
  | .finite negative m p, .finite _ n q =>
    if n = 0 then 0.0 / 0.0
    else
      -- Both magnitudes as multiples of the finer power of two.
      let unit := min p q
      let rest := m * Nat.pow 2 (p - unit).toNat % (n * Nat.pow 2 (q - unit).toNat)
      floatOfScaled (FloatContent.signed negative rest) unit
  | .finite _ _ _, .infinite _ => a
  | _, _ => 0.0 / 0.0

end Reckon
