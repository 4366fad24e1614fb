/-
Module: Reckon.Number.FloatText
Purpose: How a float is written: its shortest digits, with a point among them or with a power of
  ten.
Main exports: FloatNotation, FloatNotation.standard, floatText
-/
import Reckon.Number.FloatContent
import Reckon.Number.Shortest

namespace Reckon

/-- The decisions of a notation for floats: which numbers are written without a power of ten, given
by the place of the decimal point relative to the first digit, and the words for what is no finite
number. -/
structure FloatNotation where
  lowestPlace : Int
  highestPlace : Int
  infinity : String
  notANumber : String
deriving DecidableEq, Repr

/-- Zero and the numbers from `0.0001` up to `10 ^ 16` are written positionally, all others with a
power of ten. -/
def FloatNotation.standard : FloatNotation :=
  ⟨-3, 16, "inf", "NaN"⟩

/-- Digits with a point after the first `place` of them, and at least one digit on either side. -/
def positional (digits : List Char) (place : Int) : List Char :=
  if place ≤ 0 then '0' :: '.' :: (List.replicate (-place).toNat '0' ++ digits)
  else if digits.length ≤ place.toNat then
    digits ++ List.replicate (place.toNat - digits.length) '0' ++ ['.', '0']
  else digits.take place.toNat ++ '.' :: digits.drop place.toNat

/-- Digits with a point after the first, unless it is the only one, and the power of ten that this
calls for. -/
def scientific (digits : List Char) (place : Int) : List Char :=
  let mantissa :=
    match digits with
    | first :: second :: rest => first :: '.' :: second :: rest
    | short => short
  mantissa ++ 'e' :: (toString (place - 1)).toList

/-- Writes a decimal. -/
def Decimal.render (style : FloatNotation) (d : Decimal) : List Char :=
  let digits := Nat.toDigits 10 d.coefficient
  let place := digits.length + d.exponent
  if d.coefficient = 0 then positional digits 1
  else if style.lowestPlace ≤ place ∧ place ≤ style.highestPlace then positional digits place
  else scientific digits place

/-- The text of a float's content. Zero keeps its sign. -/
def FloatContent.render (style : FloatNotation) : FloatContent → String
  | .nan => style.notANumber
  | .infinite negative => (if negative then "-" else "") ++ style.infinity
  | .finite negative significand exponent =>
    let decimal :=
      if significand = 0 then ⟨0, 0⟩ else (Magnitude.mk significand exponent).shortest
    (if negative then "-" else "") ++ String.ofList (decimal.render style)

/-- The text of a float. -/
def floatText (x : Float) : String :=
  (FloatContent.ofFloat x).render .standard

end Reckon
