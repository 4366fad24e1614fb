/-
Module: Reckon.Expr
Purpose: Expression trees. Every tree knows the span of text that it covers. An error node stands
  where folding found a part that can never be evaluated.
Main exports: Expr, Expr.span, Expr.firstError?
-/
import Reckon.Diagnostic

namespace Reckon

/-- Expression trees. A binary node records the family of the grammar it was built by beside its
operator. A `guarded` node is a conditional without an alternative. -/
inductive Expr (F : Type := Float) where
  | value (span : Span) (v : Value F)
  | unary (op : UnaryOp) (opSpan : Span) (operand : Expr F)
  | binary (family : Family) (op : BinaryOp) (left right : Expr F)
  | coalesce (left right : Expr F)
  | conditional (cond ifTrue ifFalse : Expr F)
  | guarded (cond ifTrue : Expr F)
  | error (diagnostic : Diagnostic)
deriving DecidableEq, Repr, Inhabited

namespace Expr

variable {F : Type}

/-- The stretch of text that a tree covers. -/
def span : Expr F → Span
  | .value span _ => span
  | .unary _ opSpan operand => opSpan.extendBack operand.span
  | .binary _ _ left right => left.span.join right.span
  | .coalesce left right => left.span.join right.span
  | .conditional cond _ ifFalse => cond.span.join ifFalse.span
  | .guarded cond ifTrue => cond.span.join ifTrue.span
  | .error diagnostic => diagnostic.span

/-- The diagnostic of the first error node, from left to right. -/
def firstError? : Expr F → Option Diagnostic
  | .value _ _ => none
  | .unary _ _ operand => operand.firstError?
  | .binary _ _ left right => left.firstError?.or right.firstError?
  | .coalesce left right => left.firstError?.or right.firstError?
  | .conditional cond ifTrue ifFalse =>
    (cond.firstError?.or ifTrue.firstError?).or ifFalse.firstError?
  | .guarded cond ifTrue => cond.firstError?.or ifTrue.firstError?
  | .error diagnostic => some diagnostic

end Expr

end Reckon
