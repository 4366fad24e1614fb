/-
Module: Reckon.Number.Numeral
Purpose: Reading numbers from text. A whole number is an optional sign and digits. A decimal number
  is an optional sign and either a word (`inf`, `infinity` or `nan`, in any case) or digits with at
  most one point among them and an optional power of ten; it is read to the nearest float.
Main exports: readNat?, readInt?, readFloat?
-/

namespace Reckon

/-- The number that a non-empty run of digits stands for. -/
def readDigits? (cs : List Char) : Option Nat :=
  if cs.isEmpty || !cs.all Char.isDigit then none else some (Nat.ofDigitChars 10 cs 0)

/-- A natural number, with or without a plus sign. -/
def readNat? : List Char → Option Nat
  | '+' :: rest => readDigits? rest
  | cs => readDigits? cs

/-- A whole number, with or without a sign. -/
def readInt? : List Char → Option Int
  | '+' :: rest => (readDigits? rest).map Int.ofNat
  | '-' :: rest => (readDigits? rest).map fun n => -Int.ofNat n
  | cs => (readDigits? cs).map Int.ofNat

/-- The float nearest to `coefficient * 10 ^ exponent`. -/
def floatOfDecimal (coefficient : Nat) (exponent : Int) : Float :=
  Float.ofScientific coefficient (exponent < 0) exponent.natAbs

/-- The power of ten at the end of a decimal number: nothing, or the letter `e` and a whole
number. -/
def readExponent? : List Char → Option Int
  | [] => some 0
  | c :: rest => if c = 'e' ∨ c = 'E' then readInt? rest else none

/-- A decimal number without a sign: digits, a point and more digits, a power of ten. At least one
digit stands beside the point. -/
def readMagnitude? (cs : List Char) : Option Float :=
  let whole := cs.takeWhile Char.isDigit
  let afterWhole := cs.dropWhile Char.isDigit
  let (fraction, afterFraction) :=
    match afterWhole with
    | '.' :: rest => (rest.takeWhile Char.isDigit, rest.dropWhile Char.isDigit)
    | rest => ([], rest)
  if whole.isEmpty && fraction.isEmpty then none
  else
    (readExponent? afterFraction).map fun exponent =>
      floatOfDecimal (Nat.ofDigitChars 10 (whole ++ fraction) 0) (exponent - fraction.length)

/-- An unsigned decimal number, or a word for what is no finite number. -/
def readUnsigned? (cs : List Char) : Option Float :=
  let word := String.ofList (cs.map Char.toLower)
  if word = "inf" ∨ word = "infinity" then some (1.0 / 0.0)
  else if word = "nan" then some (0.0 / 0.0)
  else readMagnitude? cs

/-- A decimal number, with or without a sign, read to the nearest float. -/
def readFloat? : List Char → Option Float
  | '+' :: rest => readUnsigned? rest
  | '-' :: rest => (readUnsigned? rest).map Float.neg
  | cs => readUnsigned? cs

end Reckon
