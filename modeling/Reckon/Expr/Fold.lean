/-
Module: Reckon.Expr.Fold
Purpose: Constant folding. A node whose operands are literals is replaced by the literal it
  evaluates to, or by an error node that says why it has none; all other nodes are rebuilt from
  their folded operands.
Main exports: Expr.fold
-/
import Reckon.Expr

namespace Reckon.Expr

variable {F : Type} [Floats F]

/-- Folds a unary node over a folded operand. -/
def foldUnary (op : UnaryOp) (opSpan : Span) : Expr F → Expr F
  | .value span v =>
    match Value.unary op v with
    | .ok result => .value (opSpan.extendBack span) result
    | .error fault => .error ⟨.unaryFault fault op v.kind, opSpan.extendBack span⟩
  | operand => .unary op opSpan operand

/-- The complaint about an identity test between literals, which only its own family of nodes
raises. -/
def identityComplaint? : Family → BinaryOp → ValueKind → Option Complaint
  | .equality, .same, kind => some (.identityOfLiteral false kind)
  | .equality, .notSame, kind => some (.identityOfLiteral true kind)
  | _, _, _ => none

/-- The literal or error node for a binary node between two literals. -/
def foldLiterals (family : Family) (op : BinaryOp) (span : Span) (left right : Value F) : Expr F :=
  match identityComplaint? family op left.kind with
  | some complaint => .error ⟨complaint, span⟩
  | none =>
    match Value.binary op left right with
    | .ok result => .value span result
    | .error fault => .error ⟨.binaryFault fault op left.kind right.kind, span⟩

/-- Folds a binary node over folded operands. -/
def foldBinary (family : Family) (op : BinaryOp) : Expr F → Expr F → Expr F
  | .value leftSpan left, .value rightSpan right =>
    foldLiterals family op (leftSpan.join rightSpan) left right
  | left, right => .binary family op left right

/-- Folds a coalescing node over folded operands: a literal on the left decides. -/
def foldCoalesce (left right : Expr F) : Expr F :=
  match left with
  | .value _ .null => right
  | .value _ _ => left
  | _ => .coalesce left right

/-- What a folded condition says. -/
inductive Verdict where
  | holds
  | fails
  /-- The condition is a literal that is no boolean. -/
  | invalid (diagnostic : Diagnostic)
  /-- The condition is no literal. -/
  | unknown
deriving DecidableEq, Repr, Inhabited

/-- The verdict of a folded condition. -/
def verdict {F : Type} : Expr F → Verdict
  | .value _ (.bool true) => .holds
  | .value _ (.bool false) => .fails
  | .value span v => .invalid ⟨.conditionNotBool v.kind, span⟩
  | _ => .unknown

/-- Folds a conditional over folded parts. -/
def foldConditional (cond ifTrue ifFalse : Expr F) : Expr F :=
  match cond.verdict with
  | .holds => ifTrue
  | .fails => ifFalse
  | .invalid diagnostic => .error diagnostic
  | .unknown => .conditional cond ifTrue ifFalse

/-- Folds a conditional without an alternative over folded parts. Its value is null if the condition
fails. -/
def foldGuarded (cond ifTrue : Expr F) : Expr F :=
  match cond.verdict with
  | .holds => ifTrue
  | .fails => .value ifTrue.span .null
  | .invalid diagnostic => .error diagnostic
  | .unknown => .guarded cond ifTrue

/-- Folds a tree from its leaves upwards. -/
def fold : Expr F → Expr F
  | .value span v => .value span v.narrow
  | .unary op opSpan operand => foldUnary op opSpan operand.fold
  | .binary family op left right => foldBinary family op left.fold right.fold
  | .coalesce left right => foldCoalesce left.fold right.fold
  | .conditional cond ifTrue ifFalse => foldConditional cond.fold ifTrue.fold ifFalse.fold
  | .guarded cond ifTrue => foldGuarded cond.fold ifTrue.fold
  | .error diagnostic => .error diagnostic

end Reckon.Expr
