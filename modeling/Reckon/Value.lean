/-
Module: Reckon.Value
Purpose: The values of the language. Numbers are 64-bit integers and floats; a float that happens to
  be an integer within range is the same number as that integer, and `narrow` chooses the integer.
  The type of floats is a parameter, which by default is that of the machine.
Main exports: Value, ValueKind, Value.narrow, Value.display, Value.inspect, Value.isTruthy,
  Value.number?
-/
import Reckon.Number.Floats
import Reckon.Text.Layout

namespace Reckon

/-- What an expression evaluates to. -/
inductive Value (F : Type := Float) where
  | integer (n : Int64)
  | float (x : F)
  | bool (b : Bool)
  | string (s : String)
  | null
deriving DecidableEq, Repr, Inhabited

/-- The kinds of values, which messages name. -/
inductive ValueKind where
  | integer
  | float
  | bool
  | string
  | null
deriving DecidableEq, Repr, Inhabited

/-- The name of a kind in messages and printed trees. -/
def ValueKind.name : ValueKind → String
  | .integer => "Integer"
  | .float => "Float"
  | .bool => "Bool"
  | .string => "String"
  | .null => "Null"

namespace Value

/-- The kind of a value. -/
def kind {F : Type} : Value F → ValueKind
  | .integer _ => .integer
  | .float _ => .float
  | .bool _ => .bool
  | .string _ => .string
  | .null => .null

section AnyFloats

variable {F : Type} [Floats F]

/-- Turns a float that equals an integer in range into that integer, and keeps every other value. -/
def narrow : Value F → Value F
  | .float x =>
    match Floats.integer? x with
    | some n => .integer n
    | none => .float x
  | v => v

/-- The text of a value as the language prints it. -/
def display : Value F → String
  | .integer n => toString n.toInt
  | .float x => Floats.text x
  | .bool true => "True"
  | .bool false => "False"
  | .string s => s
  | .null => "null"

end AnyFloats

/-- A number as a float. -/
def number? : Value → Option Float
  | .integer n => some (Floats.ofInteger n)
  | .float x => some x
  | _ => none

/-- Whether a value counts as true in a conditional jump: null, false, zero and the empty string do
not. -/
def isTruthy : Value → Bool
  | .null => false
  | .bool b => b
  | .integer n => n != 0
  | .float x => x != 0.0
  | .string s => !s.isEmpty

/-- The text of a value with its kind, in which strings stand between quotation marks. -/
def inspect : Value → String
  | .integer n => "Integer(" ++ toString n.toInt ++ ")"
  | .float x => "Float(" ++ floatText x ++ ")"
  | .bool b => "Bool(" ++ (if b then "true" else "false") ++ ")"
  | .string s => "String(" ++ Text.quoted s ++ ")"
  | .null => "Null"

end Value

end Reckon
