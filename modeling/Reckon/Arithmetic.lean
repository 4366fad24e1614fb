/-
Module: Reckon.Arithmetic
Purpose: What the operators do to values. Integer results are exact: a result that leaves the 64-bit
  range is a fault. A float beside an integer makes both floats. Every result is narrowed.
Main exports: Value.equals, Value.binary, Value.unary
-/
import Reckon.Integer

namespace Reckon

namespace Value

/-- Two operands as arithmetic sees them: two integers, two floats when at least one is a float, or
something else. -/
inductive Operands (F : Type) where
  | integers (a b : Int64)
  | floats (a b : F)
  | other
deriving DecidableEq, Repr, Inhabited

variable {F : Type} [Floats F]

/-- The arithmetic view of two values. -/
def operands : Value F → Value F → Operands F
  | .integer a, .integer b => .integers a b
  | .integer a, .float b => .floats (Floats.ofInteger a) b
  | .float a, .integer b => .floats a (Floats.ofInteger b)
  | .float a, .float b => .floats a b
  | _, _ => .other

/-- An integer result, which is a fault outside the 64-bit range. -/
def exact (n : Int) : Except Fault (Value F) :=
  match int64? n with
  | some n => .ok (.integer n)
  | none => .error .overflow

/-- The outcome of machine steps, none of which traps. -/
def ofSteps (steps : Option (Except Fault Int64)) (free : steps.isSome) : Except Fault (Value F) :=
  (steps.get free).map .integer

/-- Addition, which for a string on the left appends the text of the right operand. -/
def add (left right : Value F) : Except Fault (Value F) :=
  match operands left right, left with
  | .integers a b, _ => exact (a.toInt + b.toInt)
  | .floats a b, _ => .ok (.float (a + b))
  | .other, .string s => .ok (.string (s ++ right.display))
  | .other, _ => .error .unsupported

/-- Subtraction. -/
def subtract (left right : Value F) : Except Fault (Value F) :=
  match operands left right, left with
  | .integers a b, _ => exact (a.toInt - b.toInt)
  | .floats a b, _ => .ok (.float (a - b))
  | .other, .string _ => .error .undefinedForString
  | .other, _ => .error .unsupported

/-- Multiplication. -/
def multiply (left right : Value F) : Except Fault (Value F) :=
  match operands left right with
  | .integers a b => exact (a.toInt * b.toInt)
  | .floats a b => .ok (.float (a * b))
  | .other => .error .unsupported

/-- Division, whose result is a float also between integers. -/
def divide (left right : Value F) : Except Fault (Value F) :=
  match operands left right with
  | .integers a b =>
    if b = 0 then .error .divisionByZero
    else .ok (.float (Floats.ofInteger a / Floats.ofInteger b))
  | .floats a b => if b == Floats.zero then .error .divisionByZero else .ok (.float (a / b))
  | .other => .error .unsupported

/-- Division rounded down to an integer. -/
def floorDivide (left right : Value F) : Except Fault (Value F) :=
  match operands left right with
  | .integers a b => ofSteps (Integer.floorDivide a b) (Integer.isSome_floorDivide a b)
  | .floats a b =>
    if b == Floats.zero then .error .divisionByZero
    else
      match Floats.floor? (a / b) with
      | some quotient => exact quotient
      | none => .error .overflow
  | .other => .error .unsupported

/-- The remainder that goes with `floorDivide`: it is zero or has the sign of the divisor. -/
def remainder (left right : Value F) : Except Fault (Value F) :=
  match operands left right with
  | .integers a b => ofSteps (Integer.remainder a b) (Integer.isSome_remainder a b)
  | .floats a b =>
    if b == Floats.zero then .error .divisionByZero
    else
      let rest := Floats.remainder a b
      if rest != Floats.zero && Floats.lt rest Floats.zero != Floats.lt b Floats.zero then
        .ok (.float (rest + b))
      else .ok (.float rest)
  | .other => .error .unsupported

/-- Exponentiation. A negative exponent makes floats of two integers. -/
def power (left right : Value F) : Except Fault (Value F) :=
  match operands left right with
  | .integers a b =>
    if b < 0 then
      if a = 0 then .error .divisionByZero
      else .ok (.float (Floats.pow (Floats.ofInteger a) (Floats.ofInteger b)))
    else (Integer.power a b).map .integer
  | .floats a b =>
    if a == Floats.zero && Floats.lt b Floats.zero then .error .divisionByZero
      else .ok (.float (Floats.pow a b))
  | .other => .error .unsupported

/-- Shift to the left, which multiplies by a power of two. -/
def shiftLeft (left right : Value F) : Except Fault (Value F) :=
  match operands left right with
  | .integers a b => ofSteps (Integer.shiftLeft a b) (Integer.isSome_shiftLeft a b)
  | .floats _ _ => .error .undefinedWithFloat
  | .other => .error .unsupported

/-- Shift to the right, which divides by a power of two and rounds down. -/
def shiftRight (left right : Value F) : Except Fault (Value F) :=
  match operands left right with
  | .integers a b => ofSteps (Integer.shiftRight a b) (Integer.isSome_shiftRight a b)
  | .floats _ _ => .error .undefinedWithFloat
  | .other => .error .unsupported

/-- A comparison of two numbers, given by what it says of integers and of floats. -/
def compareWith (integers : Int64 → Int64 → Bool) (floats : F → F → Bool)
    (left right : Value F) : Except Fault (Value F) :=
  match operands left right with
  | .integers a b => .ok (.bool (integers a b))
  | .floats a b => .ok (.bool (floats a b))
  | .other => .error .unsupported

/-- Equality: of numbers by their numeric value, of other values within their kind. -/
def equals : Value F → Value F → Bool
  | .integer a, .integer b => a == b
  | .integer a, .float b => Floats.ofInteger a == b
  | .float a, .integer b => a == Floats.ofInteger b
  | .float a, .float b => a == b
  | .bool a, .bool b => a == b
  | .string a, .string b => a == b
  | .null, .null => true
  | _, _ => false

/-- Equality of two values of one kind. -/
def sameAs (left right : Value F) : Bool :=
  left.kind == right.kind && left.equals right

/-- A bitwise operation, which is for two integers. -/
def bitwise (f : Int64 → Int64 → Int64) (left right : Value F) : Except Fault (Value F) :=
  match left, right with
  | .integer a, .integer b => .ok (.integer (f a b))
  | _, _ => .error .unsupported

/-- A logical operation, which is for two booleans. -/
def logical (f : Bool → Bool → Bool) (left right : Value F) : Except Fault (Value F) :=
  match left, right with
  | .bool a, .bool b => .ok (.bool (f a b))
  | _, _ => .error .unsupported

/-- The rule of each binary operator. Coalescing is no operation on two values: it leaves out its
right operand. -/
def rule : BinaryOp → Value F → Value F → Except Fault (Value F)
  | .plus => add
  | .minus => subtract
  | .times => multiply
  | .divide => divide
  | .floorDivide => floorDivide
  | .remainder => remainder
  | .power => power
  | .shiftLeft => shiftLeft
  | .shiftRight => shiftRight
  | .greater => compareWith (fun a b => b < a) (fun a b => Floats.lt b a)
  | .greaterEqual => compareWith (fun a b => b ≤ a) (fun a b => Floats.le b a)
  | .less => compareWith (fun a b => a < b) Floats.lt
  | .lessEqual => compareWith (fun a b => a ≤ b) Floats.le
  | .equal => fun left right => .ok (.bool (left.equals right))
  | .notEqual => fun left right => .ok (.bool (!left.equals right))
  | .same => fun left right => .ok (.bool (left.sameAs right))
  | .notSame => fun left right => .ok (.bool (!left.sameAs right))
  | .bitAnd => bitwise (· &&& ·)
  | .bitOr => bitwise (· ||| ·)
  | .bitXor => bitwise (· ^^^ ·)
  | .andAnd | .andWord => logical (· && ·)
  | .orOr => logical (· || ·)
  | .xorWord => logical Bool.xor
  | .coalesce => fun _ _ => .error .unsupported

/-- Applies a binary operator, and narrows the result. -/
def binary (op : BinaryOp) (left right : Value F) : Except Fault (Value F) :=
  (rule op left right).map narrow

/-- Applies a unary operator, and narrows the result. -/
def unary (op : UnaryOp) (operand : Value F) : Except Fault (Value F) :=
  match op, operand with
  | .plus, .integer n => .ok (.integer n)
  | .plus, .float x => .ok (narrow (.float x))
  | .minus, .integer n => exact (-n.toInt)
  | .minus, .float x => .ok (narrow (.float (-x)))
  | _, _ => .error .unsupported

end Value

end Reckon
