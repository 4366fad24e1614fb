/-
Module: Reckon.Proofs.Generation
Purpose: What lowering writes. The visit to a tree either stops at the first obstacle in the order
  of the visit, or appends the code of the tree to what is written already and takes as many labels
  as that code has. The code of a tree is described here without the state of the visit: over its
  literals, from the next label on.
Main exports: Expr.obstacle?, Expr.code, Code.assemble, Expr.emit_eq, Stmt.lower_eq
-/
import Reckon.Code.Lower
import Reckon.Proofs.Evaluation

namespace Reckon

/-! ### Obstacles -/

namespace Expr

/-- The first obstacle in a tree, in the order of the visit. -/
def obstacle? : Expr → Option Obstacle
  | .value _ _ => none
  | .unary _ _ operand => operand.obstacle?
  | .binary _ op left right =>
    (left.obstacle?.or right.obstacle?).or
      (if op.operation?.isNone then some .coalesceOperator else none)
  | .coalesce left right => left.obstacle?.or right.obstacle?
  | .conditional cond ifTrue ifFalse =>
    -- The code of the alternative stands before that of the branch.
    (cond.obstacle?.or ifFalse.obstacle?).or ifTrue.obstacle?
  | .guarded cond ifTrue => cond.obstacle?.or ifTrue.obstacle?
  | .error diagnostic => some (.errorNode diagnostic)

/-! ### Code over literals -/

/-- The number of labels in the code of a tree. -/
def labelCount : Expr → Nat
  | .value _ _ => 0
  | .unary _ _ operand => operand.labelCount
  | .binary _ _ left right => left.labelCount + right.labelCount
  | .coalesce left right => 2 + left.labelCount + right.labelCount
  | .conditional cond ifTrue ifFalse =>
    2 + cond.labelCount + ifFalse.labelCount + ifTrue.labelCount
  | .guarded cond ifTrue => 2 + cond.labelCount + ifTrue.labelCount
  | .error _ => 0

/-- The code of a tree over its literals, each instruction with the place it comes from. The labels
are those from `next` on. -/
def code : Expr → (next : Nat) → List (Instr Value × Span)
  | .value span v, _ => [(.constant v, span)]
  | .unary op opSpan operand, next =>
    operand.code next ++ (match op with | .plus => [] | .minus => [(.negate, opSpan)])
  | .binary _ op left right, next =>
    left.code next ++ right.code (next + left.labelCount) ++
      (op.operation?.toList.map fun operation => (.operate operation, left.span.join right.span))
  | .coalesce left right, next =>
    left.code (next + 2) ++
      [(.dup, left.span), (.constant .null, left.span), (.operate .equal, left.span),
        (.popJumpIf false next, left.span), (.pop, left.span)] ++
      right.code (next + 2 + left.labelCount) ++
      [(.jump (next + 1), right.span), (.label next, right.span), (.label (next + 1), right.span)]
  | .conditional cond ifTrue ifFalse, next =>
    cond.code (next + 2) ++
      [(.constant (.bool true), cond.span), (.operate .equal, cond.span),
        (.popJumpIf true next, cond.span)] ++
      ifFalse.code (next + 2 + cond.labelCount) ++
      [(.jump (next + 1), cond.span), (.label next, ifTrue.span)] ++
      ifTrue.code (next + 2 + cond.labelCount + ifFalse.labelCount) ++
      [(.label (next + 1), ifTrue.span)]
  | .guarded cond ifTrue, next =>
    cond.code (next + 2) ++
      [(.constant (.bool true), cond.span), (.operate .equal, cond.span),
        (.popJumpIf true next, cond.span), (.constant .null, ifTrue.span),
        (.jump (next + 1), cond.span), (.label next, ifTrue.span)] ++
      ifTrue.code (next + 2 + cond.labelCount) ++
      [(.label (next + 1), ifTrue.span)]
  | .error _, _ => []

/-- The code of expressions one after another, with the labels from `next` on. -/
def codeAll : List Expr → (next : Nat) → List (Instr Value × Span)
  | [], _ => []
  | e :: rest, next => e.code next ++ codeAll rest (next + e.labelCount)

end Expr

/-- Replaces the literals of a piece of code by their indices in a pool. -/
def Code.assemble (located : List (Instr Value × Span)) : Code :=
  (located.foldl (fun a entry => a.write entry.1 entry.2) Assembly.empty).code

/-! ### The state of the visit -/

namespace Generator

/-- The state after located instructions are written and `count` labels are taken. -/
def wrote (g : Generator) (located : List (Instr Value × Span)) (count : Nat) : Generator :=
  ⟨located.foldl (fun a entry => a.write entry.1 entry.2) g.assembly, g.labels + count⟩

/-- The outcome of a visit to a tree with the given obstacle, code and number of labels. -/
def visited (g : Generator) (obstacle? : Option Obstacle) (located : List (Instr Value × Span))
    (count : Nat) : Except Obstacle Generator :=
  match obstacle? with
  | some obstacle => .error obstacle
  | none => .ok (g.wrote located count)

variable (g : Generator) (located : List (Instr Value × Span)) (count : Nat)

@[simp] theorem labels_wrote : (g.wrote located count).labels = g.labels + count :=
  rfl

/-- Writing instructions takes no label. -/
theorem write_eq_wrote (instrs : List (Instr Value)) (span : Span) :
    g.write instrs span = g.wrote (instrs.map (·, span)) 0 := by
  rw [write, wrote, List.foldl_map, Nat.add_zero]

/-- Taking a label writes nothing. -/
theorem label_eq : g.label = (g.labels, g.wrote [] 1) :=
  rfl

/-- What is written in two parts is written one after the other. -/
theorem wrote_wrote (located' : List (Instr Value × Span)) (count' : Nat) :
    (g.wrote located count).wrote located' count' =
      g.wrote (located ++ located') (count + count') := by
  simp only [wrote, List.foldl_append, Nat.add_assoc]

@[simp] theorem visited_some (obstacle : Obstacle) :
    g.visited (some obstacle) located count = .error obstacle :=
  rfl

@[simp] theorem visited_none : g.visited none located count = .ok (g.wrote located count) :=
  rfl

end Generator

/-! ### Visits -/

open Generator in
/-- The visit to a tree stops at its first obstacle, or appends its code. -/
theorem Expr.emit_eq (e : Expr) (g : Generator) :
    e.emit g = g.visited e.obstacle? (e.code g.labels) e.labelCount := by
  -- In every case the visits to the children are rewritten in their order; after the first obstacle
  -- nothing is left.
  induction e generalizing g with
  | value span v => rw [emit, write_eq_wrote, obstacle?, code, labelCount, visited_none]; rfl
  | unary op opSpan operand visit =>
      rw [emit, visit, obstacle?]
      cases operand.obstacle? with
      | some obstacle => rfl
      | none =>
          cases op with
          | plus => simp [code, labelCount]
          | minus => simp [code, labelCount, write_eq_wrote, wrote_wrote]
  | binary family op left right visitLeft visitRight =>
      rw [emit, visitLeft, obstacle?]
      cases left.obstacle? with
      | some obstacle => rfl
      | none =>
          rw [visited_none, ok_bind, visitRight]
          cases right.obstacle? with
          | some obstacle => rfl
          | none =>
              cases carried : op.operation? with
              | none => simp
              | some operation => simp [code, labelCount, carried, write_eq_wrote, wrote_wrote]
  | coalesce left right visitLeft visitRight =>
      rw [emit, obstacle?]
      simp only [label_eq, visitLeft, wrote_wrote]
      cases left.obstacle? with
      | some obstacle => rfl
      | none =>
          simp only [visited_none, ok_bind, visitRight, write_eq_wrote, wrote_wrote]
          cases right.obstacle? with
          | some obstacle => rfl
          | none => simp [code, labelCount, wrote_wrote, Nat.add_assoc]
  | conditional cond ifTrue ifFalse visitCond visitTrue visitFalse =>
      rw [emit, obstacle?]
      simp only [label_eq, visitCond, wrote_wrote]
      cases cond.obstacle? with
      | some obstacle => rfl
      | none =>
          simp only [visited_none, ok_bind, visitFalse, write_eq_wrote, wrote_wrote]
          cases ifFalse.obstacle? with
          | some obstacle => rfl
          | none =>
              simp only [visited_none, ok_bind, visitTrue, wrote_wrote]
              cases ifTrue.obstacle? with
              | some obstacle => rfl
              | none => simp [code, labelCount, wrote_wrote, Nat.add_assoc]
  | guarded cond ifTrue visitCond visitTrue =>
      rw [emit, obstacle?]
      simp only [label_eq, visitCond, wrote_wrote]
      cases cond.obstacle? with
      | some obstacle => rfl
      | none =>
          simp only [visited_none, ok_bind, visitTrue, write_eq_wrote, wrote_wrote]
          cases ifTrue.obstacle? with
          | some obstacle => rfl
          | none => simp [code, labelCount, wrote_wrote, Nat.add_assoc]
  | error diagnostic => rfl

/-- The visits to trees one after another. -/
def Expr.emitEach (exprs : List Expr) (g : Generator) : Except Obstacle Generator :=
  exprs.foldlM (fun g e => e.emit g) g

/-- The visits to trees one after another stop at the first obstacle in any of them, or append the
code of all. -/
theorem Expr.emitEach_eq (exprs : List Expr) (g : Generator) :
    (emitEach exprs g).map Generator.assembly =
      match exprs.findSome? Expr.obstacle? with
      | some obstacle => .error obstacle
      | none => .ok (g.wrote (codeAll exprs g.labels) 0).assembly := by
  induction exprs generalizing g with
  | nil => rfl
  | cons e rest visits =>
      rw [emitEach, List.foldlM_cons, emit_eq, List.findSome?_cons]
      cases e.obstacle? with
      | some obstacle => rfl
      | none =>
          have appended := visits (g.wrote (e.code g.labels) e.labelCount)
          rw [Generator.labels_wrote, Generator.wrote_wrote] at appended
          exact appended

namespace Stmt

mutual

/-- The visit to a statement is the visits to its expressions. -/
theorem emit_eq_emitEach (s : Stmt) (g : Generator) : s.emit g = Expr.emitEach s.expressions g :=
  match s with
  | .expression e => by simp [emit, expressions, Expr.emitEach]
  | .block body => by rw [emit, expressions, emitAll_eq_emitEach body]

theorem emitAll_eq_emitEach (body : List Stmt) (g : Generator) :
    emitAll body g = Expr.emitEach (expressionsOf body) g :=
  match body with
  | [] => rfl
  | s :: rest => by
      rw [emitAll, expressionsOf, Expr.emitEach, List.foldlM_append, emit_eq_emitEach s]
      exact bind_congr fun g => emitAll_eq_emitEach rest g

end

/-- Lowering stops at the first obstacle in a statement, or gives the assembled code of its
expressions. -/
theorem lower_eq (s : Stmt) :
    s.lower =
      match s.expressions.findSome? Expr.obstacle? with
      | some obstacle => .error obstacle
      | none => .ok (.assemble (Expr.codeAll s.expressions 0)) := by
  have visits := Expr.emitEach_eq s.expressions .empty
  rw [← emit_eq_emitEach] at visits
  have split : s.lower = ((s.emit .empty).map Generator.assembly).map Assembly.code := by
    rw [lower]
    cases s.emit .empty with
    | error obstacle => rfl
    | ok g => rfl
  rw [split, visits]
  cases s.expressions.findSome? Expr.obstacle? with
  | some obstacle => rfl
  | none => rfl

end Stmt

end Reckon
