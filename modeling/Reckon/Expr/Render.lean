/-
Module: Reckon.Expr.Render
Purpose: Expression trees as text, with parentheses around every node.
Main exports: Expr.render
-/
import Reckon.Expr

namespace Reckon.Expr

/-- The text of a tree. An error node is the text of its diagnostic, without parentheses. -/
def render : Expr → String
  | .value _ v => "(" ++ v.kind.name ++ " " ++ v.display ++ ")"
  | .unary op _ operand => "(" ++ op.name ++ " " ++ operand.render ++ ")"
  | .binary _ op left right => "(" ++ left.render ++ " " ++ op.name ++ " " ++ right.render ++ ")"
  | .coalesce left right =>
    "(" ++ left.render ++ " " ++ BinaryOp.coalesce.name ++ " " ++ right.render ++ ")"
  | .conditional cond ifTrue ifFalse =>
    "(" ++ cond.render ++ " ? " ++ ifTrue.render ++ " : " ++ ifFalse.render ++ ")"
  | .guarded cond ifTrue => "(" ++ cond.render ++ " ? " ++ ifTrue.render ++ ")"
  | .error diagnostic => diagnostic.render

end Reckon.Expr
