/-
Module: Reckon.Operator
Purpose: The operators of the language with the names that messages and printed trees use, and the
  families into which the grammar sorts the binary ones.
Main exports: UnaryOp, BinaryOp, Family, BinaryOp.family?
-/

namespace Reckon

/-- The operators with one operand. -/
inductive UnaryOp where
  | plus
  | minus
deriving DecidableEq, Repr, Inhabited

/-- The operators with two operands. -/
inductive BinaryOp where
  | plus
  | minus
  | times
  | divide
  | floorDivide
  | remainder
  | power
  | shiftLeft
  | shiftRight
  | greater
  | greaterEqual
  | less
  | lessEqual
  | equal
  | notEqual
  | same
  | notSame
  | bitAnd
  | bitOr
  | bitXor
  | andAnd
  | orOr
  | andWord
  | xorWord
  | coalesce
deriving DecidableEq, Repr, Inhabited

/-- The families of binary operators that share a level, or neighbouring levels, of the grammar. -/
inductive Family where
  | additive
  | multiplicative
  | shift
  | relational
  | equality
  | bitwise
  | logical
deriving DecidableEq, Repr, Inhabited

/-- The name of a unary operator in messages. -/
def UnaryOp.name : UnaryOp → String
  | .plus => "plus"
  | .minus => "minus"

namespace BinaryOp

/-- The name of a binary operator in messages. -/
def name : BinaryOp → String
  | .plus => "plus"
  | .minus => "minus"
  | .times => "star"
  | .divide => "slash"
  | .floorDivide => "floor divide"
  | .remainder => "percent"
  | .power => "power"
  | .shiftLeft => "left shift"
  | .shiftRight => "right shift"
  | .greater => "greater than"
  | .greaterEqual => "greater equal"
  | .less => "lower than"
  | .lessEqual => "lower equal"
  | .equal => "equal operator"
  | .notEqual => "not equal operator"
  | .same => "is operator"
  | .notSame => "not operator"
  | .bitAnd => "ampersand"
  | .bitOr => "bar"
  | .bitXor => "caret"
  | .andAnd => "and operator"
  | .orOr => "or operator"
  | .andWord => "and word operator"
  | .xorWord => "xor word operator"
  | .coalesce => "null coalesce operator"

/-- The family an operator belongs to. The coalescing operator stands on its own. -/
def family? : BinaryOp → Option Family
  | .plus | .minus => some .additive
  | .times | .divide | .floorDivide | .remainder | .power => some .multiplicative
  | .shiftLeft | .shiftRight => some .shift
  | .greater | .greaterEqual | .less | .lessEqual => some .relational
  | .equal | .notEqual | .same | .notSame => some .equality
  | .bitAnd | .bitOr | .bitXor => some .bitwise
  | .andAnd | .orOr | .andWord | .xorWord => some .logical
  | .coalesce => none

end BinaryOp

end Reckon
