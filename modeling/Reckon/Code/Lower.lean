/-
Module: Reckon.Code.Lower
Purpose: From trees to code. The code of an expression leaves its value on the stack:

  * literal: push it
  * unary: operand; negate, for a minus sign
  * binary: left; right; operate
  * coalesce: left; dup; push null; equal; if false go to `keep`; pop; right; go to `end`; `keep`;
    `end`
  * conditional: condition; push true; equal; if true go to `then`; alternative; go to `end`;
    `then`; branch; `end`

  Labels are numbered from the outside in and from left to right. In the pool of constants every
  constant stands once, in the order of first use; whether it stands there already is told by its
  text. Lowering stops at the first node that has no code.
Main exports: Obstacle, Assembly, Generator, Expr.emit, Stmt.emit, Stmt.lower
-/
import Reckon.Code
import Reckon.Stmt

namespace Reckon

/-! ### What cannot be lowered -/

/-- Why a tree has no code. -/
inductive Obstacle where
  /-- The tree holds an error node. -/
  | errorNode (diagnostic : Diagnostic)
  /-- The tree holds the coalescing operator in a plain binary node, which evaluates both
  operands. -/
  | coalesceOperator
deriving DecidableEq, Repr, Inhabited

/-! ### Writing code -/

/-- Code that is being written, with the index of every constant in its pool under the text of the
constant. -/
structure Assembly where
  code : Code
  indices : List (String × Nat)
deriving DecidableEq, Repr, Inhabited

namespace Assembly

/-- Nothing is written yet. -/
def empty : Assembly :=
  ⟨.empty, []⟩

/-- Puts a constant into the pool, unless there is one with its text already. -/
def intern (a : Assembly) (v : Value) : Assembly :=
  match a.indices.lookup v.inspect with
  | some _ => a
  | none => ⟨a.code.addConstant v, (v.inspect, a.code.constants.length) :: a.indices⟩

/-- The index under the text of a constant. -/
def index (a : Assembly) (v : Value) : Nat :=
  (a.indices.lookup v.inspect).getD 0

/-- Writes an instruction that comes from the given place. Its literal goes to the pool first, and
its index there stands for it. -/
def write (a : Assembly) (instr : Instr Value) (span : Span) : Assembly :=
  let a := instr.constant?.elim a a.intern
  { a with code := a.code.write (instr.map a.index) span }

end Assembly

/-- The state of lowering: the code written so far, and the number of labels in use. -/
structure Generator where
  assembly : Assembly
  labels : Nat
deriving DecidableEq, Repr, Inhabited

namespace Generator

/-- Nothing is lowered yet. -/
def empty : Generator :=
  ⟨.empty, 0⟩

/-- A label that is not in use yet. -/
def label (g : Generator) : Nat × Generator :=
  (g.labels, { g with labels := g.labels + 1 })

/-- Writes instructions one after another, all of which come from the same place. -/
def write (g : Generator) (instrs : List (Instr Value)) (span : Span) : Generator :=
  { g with assembly := instrs.foldl (fun a instr => a.write instr span) g.assembly }

end Generator

/-! ### Lowering -/

/-- Writes the code of a tree. -/
def Expr.emit : Expr → Generator → Except Obstacle Generator
  | .value span v, g => .ok (g.write [.constant v] span)
  | .unary op opSpan operand, g => do
    let g ← operand.emit g
    match op with
    | .plus => .ok g
    | .minus => .ok (g.write [.negate] opSpan)
  | .binary _ op left right, g => do
    let g ← left.emit g
    let g ← right.emit g
    match op.operation? with
    | some operation => .ok (g.write [.operate operation] (left.span.join right.span))
    | none => .error .coalesceOperator
  | .coalesce left right, g => do
    let (keep, g) := g.label
    let (behind, g) := g.label
    let g ← left.emit g
    let g := g.write [.dup, .constant .null, .operate .equal, .popJumpIf false keep, .pop] left.span
    let g ← right.emit g
    .ok (g.write [.jump behind, .label keep, .label behind] right.span)
  | .conditional cond ifTrue ifFalse, g => do
    let (onTrue, g) := g.label
    let (behind, g) := g.label
    let g ← cond.emit g
    let g := g.write [.constant (.bool true), .operate .equal, .popJumpIf true onTrue] cond.span
    -- The code of the alternative stands before that of the branch.
    let g ← ifFalse.emit g
    let g := (g.write [.jump behind] cond.span).write [.label onTrue] ifTrue.span
    let g ← ifTrue.emit g
    .ok (g.write [.label behind] ifTrue.span)
  | .guarded cond ifTrue, g => do
    let (onTrue, g) := g.label
    let (behind, g) := g.label
    let g ← cond.emit g
    let g := g.write [.constant (.bool true), .operate .equal, .popJumpIf true onTrue] cond.span
    let g := g.write [.constant .null] ifTrue.span
    let g := (g.write [.jump behind] cond.span).write [.label onTrue] ifTrue.span
    let g ← ifTrue.emit g
    .ok (g.write [.label behind] ifTrue.span)
  | .error diagnostic, _ => .error (.errorNode diagnostic)

namespace Stmt

mutual

/-- Writes the code of a statement. -/
def emit : Stmt → Generator → Except Obstacle Generator
  | .expression e, g => e.emit g
  | .block body, g => emitAll body g

/-- Writes the code of statements one after another. -/
def emitAll : List Stmt → Generator → Except Obstacle Generator
  | [], g => .ok g
  | s :: rest, g => do
    let g ← s.emit g
    emitAll rest g

end

/-- The code of a statement. -/
def lower (s : Stmt) : Except Obstacle Code :=
  (s.emit .empty).map fun g => g.assembly.code

end Stmt

end Reckon
