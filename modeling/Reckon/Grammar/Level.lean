/-
Module: Reckon.Grammar.Level
Purpose: The levels of binary operators, from the loosest to the tightest, and the operators of
  each. All of them group from the left.
Main exports: Level, Level.table, Joint, Joint.build, Level.joint?
-/
import Reckon.Expr

namespace Reckon.Grammar

/-- The levels of binary operators. -/
inductive Level where
  | coalesce
  | or
  | xor
  | and
  | bitOr
  | bitXor
  | bitAnd
  | equality
  | relational
  | shift
  | additive
  | multiplicative
deriving DecidableEq, Repr, Inhabited

/-- How the operands of an operator are joined to a tree. -/
inductive Joint where
  | binary (family : Family) (op : BinaryOp)
  | coalesce
deriving DecidableEq, Repr, Inhabited

/-- Joins two operands. -/
def Joint.build : Joint → Expr → Expr → Expr
  | .binary family op, left, right => .binary family op left right
  | .coalesce, left, right => .coalesce left right

namespace Level

/-- All levels, the loosest first. -/
def table : List Level :=
  [.coalesce, .or, .xor, .and, .bitOr, .bitXor, .bitAnd, .equality, .relational, .shift, .additive,
    .multiplicative]

/-- The operators of a level that are a single token. The word `or` means the same operator as the
word `and`. -/
def operator? : Level → TokenKind → Option Joint
  | .coalesce, .questionQuestion => some .coalesce
  | .or, .barBar => some (.binary .logical .orOr)
  | .or, .orWord => some (.binary .logical .andWord)
  | .xor, .xorWord => some (.binary .logical .xorWord)
  | .and, .ampAmp => some (.binary .logical .andAnd)
  | .and, .andWord => some (.binary .logical .andWord)
  | .bitOr, .bar => some (.binary .bitwise .bitOr)
  | .bitXor, .caret => some (.binary .bitwise .bitXor)
  | .bitAnd, .amp => some (.binary .bitwise .bitAnd)
  | .equality, .equalEqual => some (.binary .equality .equal)
  | .equality, .bangEqual => some (.binary .equality .notEqual)
  | .equality, .isWord => some (.binary .equality .same)
  | .relational, .greater => some (.binary .relational .greater)
  | .relational, .greaterEqual => some (.binary .relational .greaterEqual)
  | .relational, .less => some (.binary .relational .less)
  | .relational, .lessEqual => some (.binary .relational .lessEqual)
  | .shift, .lessLess => some (.binary .shift .shiftLeft)
  | .shift, .greaterGreater => some (.binary .shift .shiftRight)
  | .additive, .plus => some (.binary .additive .plus)
  | .additive, .minus => some (.binary .additive .minus)
  | .multiplicative, .star => some (.binary .multiplicative .times)
  | .multiplicative, .slash => some (.binary .multiplicative .divide)
  | .multiplicative, .slashSlash => some (.binary .multiplicative .floorDivide)
  | .multiplicative, .percent => some (.binary .multiplicative .remainder)
  | .multiplicative, .starStar => some (.binary .multiplicative .power)
  | _, _ => none

/-- The operator of a level at the head of the tokens, and the tokens behind it. The words `is` and
`not` in a row are one operator. -/
def joint? (level : Level) : List Token → Option (Joint × List Token)
  | [] => none
  | token :: rest =>
    match level.operator? token.kind with
    | none => none
    | some (.binary .equality .same) =>
      match rest with
      | [] => some (.binary .equality .same, [])
      | next :: behind =>
        if next.kind = .notWord then some (.binary .equality .notSame, behind)
        else some (.binary .equality .same, rest)
    | some joint => some (joint, rest)

end Level

end Reckon.Grammar
