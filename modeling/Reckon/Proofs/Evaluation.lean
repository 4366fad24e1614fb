/-
Module: Reckon.Proofs.Evaluation
Purpose: What trees mean, said without code and without a machine. The value of an expression is
  found by recursion over its tree, operands from left to right, and a branch that is not taken is
  not evaluated. A statement has one value for each of its expressions; the first fault on the way
  is the fault of the whole.
Main exports: EvalFault, BinaryOp.applied, Expr.eval, Stmt.eval, Stmt.eval_eq_evalAll
-/
import Reckon.Machine
import Reckon.Stmt

namespace Reckon

/-! ### Results that may be faults -/

section Results

variable {ε α β : Type}

@[simp] theorem ok_bind (a : α) (f : α → Except ε β) : (Except.ok a >>= f) = f a :=
  rfl

@[simp] theorem error_bind (fault : ε) (f : α → Except ε β) :
    ((Except.error fault : Except ε α) >>= f) = .error fault :=
  rfl

@[simp] theorem mapError_ok {φ : Type} (f : ε → φ) (a : α) :
    (Except.ok a : Except ε α).mapError f = .ok a :=
  rfl

/-- A fault that is renamed is still a fault. -/
theorem mapError_eq_ok {φ : Type} {x : Except ε α} {f : ε → φ} {a : α} :
    x.mapError f = .ok a ↔ x = .ok a := by
  cases x with
  | error fault => exact ⟨nofun, nofun⟩
  | ok b => rw [mapError_ok, Except.ok.injEq, Except.ok.injEq]

/-- A computation in two parts succeeds if both parts do. -/
theorem bind_eq_ok {x : Except ε α} {f : α → Except ε β} {b : β} :
    x >>= f = .ok b ↔ ∃ a, x = .ok a ∧ f a = .ok b := by
  cases x with
  | error fault => simp
  | ok a => simp

/-- A computation in two parts fails in the first part, or in the second. -/
theorem bind_eq_error {x : Except ε α} {f : α → Except ε β} {fault : ε} :
    x >>= f = .error fault ↔ x = .error fault ∨ ∃ a, x = .ok a ∧ f a = .error fault := by
  cases x with
  | error fault => simp
  | ok a => simp

/-- A result that is left when faults are forgotten was one. -/
theorem eq_ok_of_toOption {x : Except ε α} {a : α} (some : x.toOption = some a) : x = .ok a := by
  cases x with
  | error fault => cases some
  | ok b =>
      cases some
      rfl

end Results

/-! ### Faults -/

/-- Why an expression has no value: an operator cannot be applied to the values of its operands. -/
inductive EvalFault where
  | binary (fault : Fault) (op : BinaryOp) (left right : ValueKind)
  | negate (fault : Fault) (operand : ValueKind)
deriving DecidableEq, Repr

/-- The same fault as the machine reports it. -/
def EvalFault.machineFault : EvalFault → MachineFault
  | .binary fault op left right => .binaryFault fault op left right
  | .negate fault operand => .negateFault fault operand

/-! ### Operators -/

namespace BinaryOp

/-- The operator that is applied to two booleans. The bitwise operators become logical ones. -/
def onBools : BinaryOp → BinaryOp
  | .bitAnd | .andAnd | .andWord => .andAnd
  | .bitOr | .orOr => .orOr
  | .bitXor | .xorWord => .xorWord
  | op => op

/-- The operator that is applied to operands that are not both booleans. The logical operators
become bitwise ones. -/
def onOthers : BinaryOp → BinaryOp
  | .bitAnd | .andAnd | .andWord => .bitAnd
  | .bitOr | .orOr => .bitOr
  | .bitXor | .xorWord => .bitXor
  | op => op

/-- The operator that is applied to two given operands. -/
def applied (op : BinaryOp) : Value → Value → BinaryOp
  | .bool _, .bool _ => op.onBools
  | _, _ => op.onOthers

end BinaryOp

namespace Value

/-- Applies a binary operator to two values. -/
def evalBinary (op : BinaryOp) (left right : Value) : Except EvalFault Value :=
  (binary (op.applied left right) left right).mapError fun fault =>
    .binary fault (op.applied left right) left.kind right.kind

/-- Negates a value. -/
def evalNegate (operand : Value) : Except EvalFault Value :=
  (unary .minus operand).mapError fun fault => .negate fault operand.kind

end Value

/-! ### Trees -/

/-- The value of an expression. A plus sign changes nothing. An error node stands for no expression;
it is given the value null, and no tree with such a node is ever run. -/
def Expr.eval : Expr → Except EvalFault Value
  | .value _ v => .ok v.narrow
  | .unary .plus _ operand => operand.eval
  | .unary .minus _ operand => do
    let v ← operand.eval
    v.evalNegate
  | .binary _ op left right => do
    let l ← left.eval
    let r ← right.eval
    Value.evalBinary op l r
  | .coalesce left right => do
    let l ← left.eval
    if l.equals .null then right.eval else .ok l
  | .conditional cond ifTrue ifFalse => do
    let c ← cond.eval
    if c.equals (.bool true) then ifTrue.eval else ifFalse.eval
  | .guarded cond ifTrue => do
    let c ← cond.eval
    if c.equals (.bool true) then ifTrue.eval else .ok .null
  | .error _ => .ok .null

/-- The values of expressions one after another. -/
def Expr.evalAll : List Expr → Except EvalFault (List Value)
  | [] => .ok []
  | e :: rest => do
    let v ← e.eval
    let values ← evalAll rest
    .ok (v :: values)

namespace Stmt

mutual

/-- The values of a statement: that of an expression, or those of the statements of a block in their
order. -/
def eval : Stmt → Except EvalFault (List Value)
  | .expression e => do
    let v ← e.eval
    .ok [v]
  | .block body => evalBody body

/-- The values of statements one after another. -/
def evalBody : List Stmt → Except EvalFault (List Value)
  | [] => .ok []
  | s :: rest => do
    let values ← s.eval
    let others ← evalBody rest
    .ok (values ++ others)

end

end Stmt

/-! ### Statements as rows of expressions

A statement is evaluated like the row of its expressions, whatever the nesting of its blocks. -/

/-- The values of two rows of expressions, the second behind the first. -/
theorem Expr.evalAll_append (first second : List Expr) :
    evalAll (first ++ second) = (do
      let values ← evalAll first
      let others ← evalAll second
      .ok (values ++ others)) := by
  induction first with
  | nil =>
      simp only [List.nil_append, evalAll]
      cases evalAll second <;> rfl
  | cons e rest inductionHypothesis =>
      simp only [List.cons_append, evalAll, inductionHypothesis]
      cases e.eval with
      | error fault => rfl
      | ok v =>
          cases evalAll rest with
          | error fault => rfl
          | ok values => cases evalAll second <;> rfl

/-- A row of expressions has as many values as expressions. -/
theorem Expr.length_of_evalAll {exprs : List Expr} {values : List Value}
    (evaluated : evalAll exprs = .ok values) : values.length = exprs.length := by
  induction exprs generalizing values with
  | nil =>
      cases evaluated
      rfl
  | cons e rest inductionHypothesis =>
      simp only [evalAll] at evaluated
      obtain ⟨v, _, evaluated⟩ := bind_eq_ok.mp evaluated
      obtain ⟨others, restEq, evaluated⟩ := bind_eq_ok.mp evaluated
      cases evaluated
      simp [inductionHypothesis restEq]

namespace Stmt

mutual

/-- A statement is evaluated like the row of its expressions. -/
theorem eval_eq_evalAll : (s : Stmt) → s.eval = Expr.evalAll s.expressions
  | .expression e => by
      simp only [eval, expressions, Expr.evalAll]
      cases e.eval <;> rfl
  | .block body => by
      simp only [eval, expressions]
      exact evalBody_eq_evalAll body

/-- Statements one after another are evaluated like the row of all their expressions. -/
theorem evalBody_eq_evalAll :
    (body : List Stmt) → evalBody body = Expr.evalAll (expressionsOf body)
  | [] => rfl
  | s :: rest => by
      rw [evalBody, expressionsOf, Expr.evalAll_append, eval_eq_evalAll s,
        evalBody_eq_evalAll rest]

end

end Stmt

end Reckon
