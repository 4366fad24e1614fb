/-
Module: Reckon.Fault
Purpose: Why an operator cannot be applied to its operands, and the messages that say so.
Main exports: Fault, Fault.binaryMessage, Fault.unaryMessage
-/
import Reckon.Operator
import Reckon.Value

namespace Reckon

/-- Why an operator cannot be applied to its operands. -/
inductive Fault where
  /-- The operator has no rule for operands of these kinds. -/
  | unsupported
  /-- The operator has a rule for numbers only, and the left operand is a string. -/
  | undefinedForString
  /-- The operator has a rule for integers only, and an operand is a float. -/
  | undefinedWithFloat
  | divisionByZero
  | overflow
  | negativeShift
deriving DecidableEq, Repr, Inhabited

namespace Fault

/-- The message of a fault of the operator called `name`; `use` is the text of the use that an
unsupported operation complains about. -/
def message (fault : Fault) (name use : String) : String :=
  match fault with
  | .unsupported => "Can't use " ++ use
  | .undefinedForString => "There is no implementation of " ++ name ++ " operator for String"
  | .undefinedWithFloat => "There is no implementation of " ++ name ++ " operator with Float"
  | .divisionByZero => "division by zero"
  | .overflow => "Integer overflow in " ++ name ++ " operation"
  | .negativeShift => "negative shift count"

/-- The message of a fault of a binary operator between operands of two kinds. -/
def binaryMessage (fault : Fault) (op : BinaryOp) (left right : ValueKind) : String :=
  fault.message op.name (left.name ++ " " ++ op.name ++ " " ++ right.name)

/-- The message of a fault of a unary operator before an operand of some kind. -/
def unaryMessage (fault : Fault) (op : UnaryOp) (operand : ValueKind) : String :=
  fault.message op.name (op.name ++ " " ++ operand.name)

end Fault

end Reckon
