/-
Module: Reckon.Proofs.Replacement
Purpose: Replacing parts of a tree. A relation says which tree may take the place of which; its
  closure replaces any parts, none of them inside another, at any places and in any number.
  Statements are replaced in by replacing in their expressions, so whatever is read off the
  expressions in order needs no induction of its own.
Main exports: Expr.Replaced, Stmt.Replaced, Stmt.Replaced.expressions
-/
import Mathlib.Data.List.Forall2
import Reckon.Stmt

namespace Reckon

variable {F : Type} {R : Expr F → Expr F → Prop}

/-- The second tree is the first with some of its parts, none of them inside another, replaced as
`R` allows. -/
inductive Expr.Replaced (R : Expr F → Expr F → Prop) : Expr F → Expr F → Prop where
  | part {e e' : Expr F} (allowed : R e e') : Replaced R e e'
  | value (span : Span) (v : Value F) : Replaced R (.value span v) (.value span v)
  | unary (op : UnaryOp) (opSpan : Span) {operand operand' : Expr F}
      (inOperand : Replaced R operand operand') :
      Replaced R (.unary op opSpan operand) (.unary op opSpan operand')
  | binary (family : Family) (op : BinaryOp) {left left' right right' : Expr F}
      (inLeft : Replaced R left left') (inRight : Replaced R right right') :
      Replaced R (.binary family op left right) (.binary family op left' right')
  | coalesce {left left' right right' : Expr F}
      (inLeft : Replaced R left left') (inRight : Replaced R right right') :
      Replaced R (.coalesce left right) (.coalesce left' right')
  | conditional {cond cond' ifTrue ifTrue' ifFalse ifFalse' : Expr F}
      (inCond : Replaced R cond cond') (inTrue : Replaced R ifTrue ifTrue')
      (inFalse : Replaced R ifFalse ifFalse') :
      Replaced R (.conditional cond ifTrue ifFalse) (.conditional cond' ifTrue' ifFalse')
  | guarded {cond cond' ifTrue ifTrue' : Expr F}
      (inCond : Replaced R cond cond') (inTrue : Replaced R ifTrue ifTrue') :
      Replaced R (.guarded cond ifTrue) (.guarded cond' ifTrue')
  | error (diagnostic : Diagnostic) : Replaced R (.error diagnostic) (.error diagnostic)

namespace Stmt

mutual

/-- The second statement is the first with some parts of its expressions replaced. -/
inductive Replaced (R : Expr F → Expr F → Prop) : Stmt F → Stmt F → Prop where
  | expression {e e' : Expr F} (inExpression : e.Replaced R e') :
      Replaced R (.expression e) (.expression e')
  | block {body body' : List (Stmt F)} (inBody : BodyReplaced R body body') :
      Replaced R (.block body) (.block body')

/-- The same for statements one after another. -/
inductive BodyReplaced (R : Expr F → Expr F → Prop) : List (Stmt F) → List (Stmt F) → Prop where
  | nil : BodyReplaced R [] []
  | cons {s s' : Stmt F} {rest rest' : List (Stmt F)} (inHead : Replaced R s s')
      (inRest : BodyReplaced R rest rest') : BodyReplaced R (s :: rest) (s' :: rest')

end

mutual

/-- The expressions stay in order, each with parts of its own replaced. -/
theorem Replaced.expressions {s s' : Stmt F} :
    s.Replaced R s' → List.Forall₂ (Expr.Replaced R) s.expressions s'.expressions
  | .expression inExpression => .cons inExpression .nil
  | .block inBody => inBody.expressionsOf

/-- The same for statements one after another. -/
theorem BodyReplaced.expressionsOf {body body' : List (Stmt F)} :
    BodyReplaced R body body' →
      List.Forall₂ (Expr.Replaced R) (expressionsOf body) (expressionsOf body')
  | .nil => .nil
  | .cons inHead inRest => List.rel_append inHead.expressions inRest.expressionsOf

end

end Stmt

end Reckon
