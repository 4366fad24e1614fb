/-
Module: Reckon.Number.Floats
Purpose: The operations that the language needs of its floats. They are given as a class without
  laws, so what is proved of trees over any floats also holds of floats that tell one NaN from
  another; the machine's own 64-bit floats, on which programs run, are one instance.
Main exports: int64?, Floats
-/
import Reckon.Number.FloatText

namespace Reckon

/-- The 64-bit integer equal to `n`, if `n` is in range. -/
def int64? (n : Int) : Option Int64 :=
  if Int64.minValue.toInt ≤ n ∧ n ≤ Int64.maxValue.toInt then some (Int64.ofInt n) else none

/-- The operations of floats. Nothing is assumed of them. -/
class Floats (F : Type) extends Add F, Sub F, Mul F, Div F, Neg F, BEq F where
  zero : F
  lt : F → F → Bool
  le : F → F → Bool
  pow : F → F → F
  /-- The remainder with the sign of the first operand. -/
  remainder : F → F → F
  /-- The greatest integer that is not above a finite float. -/
  floor? : F → Option Int
  /-- The integer equal to a float, if there is one in range. -/
  integer? : F → Option Int64
  /-- The float nearest to an integer. -/
  ofInteger : Int64 → F
  text : F → String

/-- The floats of the machine, which programs compute with. -/
@[default_instance] instance : Floats Float where
  zero := 0.0
  lt a b := decide (a < b)
  le a b := decide (a ≤ b)
  pow := Float.pow
  remainder := floatRemainder
  floor? x := (FloatContent.ofFloat x).floor?
  integer? x := (FloatContent.ofFloat x).integer?.bind int64?
  ofInteger n := Float.ofInt n.toInt
  text := floatText

end Reckon
