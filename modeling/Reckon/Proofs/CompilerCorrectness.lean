/-
Module: Reckon.Proofs.CompilerCorrectness
Purpose: Running the code of a tree gives what evaluating the tree gives. The code of an expression,
  wherever it stands in straight code and whatever is on the stack, runs on into what follows it
  with the value of the expression pushed, or fails as evaluation fails. From this one equation the
  result for whole statements follows: one value for each expression, or the first fault.
Main exports: Code.Straight.resume_constant and its companions, Code.Runs, Code.Straight.runs,
  Code.Straight.resume_codeAll, Stmt.run_of_lower, Stmt.execute_lower_eq_eval
-/
import Reckon.Evaluate
import Reckon.Proofs.LoweredCode

namespace Reckon

/-- The operation of an operator applies what evaluation applies. -/
theorem BinaryOp.operatorFor_operation {op : BinaryOp} {operation : Operation}
    (carried : op.operation? = some operation) (left right : Value) :
    operation.operatorFor left right = op.applied left right := by
  cases op <;> cases carried <;> cases left <;> cases right <;> rfl

namespace Code.Straight

variable {code : Code} {i j id : Nat} {below : List Value}

/-! ### Instructions as equations

Each instruction over literals, where straight code has it, as one equation between what is left of
the run before it and behind it. -/

/-- A constant is pushed narrowed. -/
theorem resume_constant (straight : code.Straight) {v : Value}
    (here : code.HasAt i (.constant v)) :
    code.resume ⟨i, ⟨below⟩⟩ = code.resume ⟨i + 1, ⟨v.narrow :: below⟩⟩ := by
  have inPool : v ∈ code.constants := here.2 v rfl
  have found : code.constants[code.constants.idxOf v]? = some v := by
    rw [List.getElem?_eq_getElem (List.idxOf_lt_length_of_mem inPool), List.getElem_idxOf]
  rw [straight.resume_eq_step here.1]
  simp only [Instr.map, step, found]
  rfl

/-- An operation replaces its two operands by their result, or fails as it does on them. -/
theorem resume_operate (straight : code.Straight) {op : BinaryOp} {operation : Operation}
    (carried : op.operation? = some operation) (here : code.HasAt i (.operate operation))
    (left right : Value) :
    code.resume ⟨i, ⟨right :: left :: below⟩⟩ = (do
      let v ← (Value.evalBinary op left right).mapError EvalFault.machineFault
      code.resume ⟨i + 1, ⟨v :: below⟩⟩) := by
  rw [straight.resume_eq_step here.1, Instr.map, step_operate,
    BinaryOp.operatorFor_operation carried]
  unfold Value.evalBinary
  cases Value.binary (op.applied left right) left right <;> rfl

/-- Negation replaces its operand by the result, or fails as it does on it. -/
theorem resume_negate (straight : code.Straight) (here : code.HasAt i .negate) (operand : Value) :
    code.resume ⟨i, ⟨operand :: below⟩⟩ = (do
      let v ← operand.evalNegate.mapError EvalFault.machineFault
      code.resume ⟨i + 1, ⟨v :: below⟩⟩) := by
  rw [straight.resume_eq_step here.1, Instr.map, step_negate]
  unfold Value.evalNegate
  cases Value.unary .minus operand <;> rfl

theorem resume_dup (straight : code.Straight) (here : code.HasAt i .dup) (top : Value) :
    code.resume ⟨i, ⟨top :: below⟩⟩ = code.resume ⟨i + 1, ⟨top :: top :: below⟩⟩ := by
  rw [straight.resume_eq_step here.1]
  rfl

theorem resume_pop (straight : code.Straight) (here : code.HasAt i .pop) (top : Value) :
    code.resume ⟨i, ⟨top :: below⟩⟩ = code.resume ⟨i + 1, ⟨below⟩⟩ := by
  rw [straight.resume_eq_step here.1]
  rfl

theorem resume_label (straight : code.Straight) (here : code.HasAt i (.label id)) :
    code.resume ⟨i, ⟨below⟩⟩ = code.resume ⟨i + 1, ⟨below⟩⟩ := by
  rw [straight.resume_eq_step here.1]
  rfl

/-- A jump goes on at its label, with the same stack. -/
theorem resume_jump (straight : code.Straight) (here : code.HasAt i (.jump id))
    (there : code.HasAt j (.label id)) : code.resume ⟨i, ⟨below⟩⟩ = code.resume ⟨j, ⟨below⟩⟩ := by
  rw [straight.resume_eq_step here.1]
  simp only [Instr.map, step, goTo, straight.target? there.1, ok_bind]

/-- A conditional jump takes the condition off, and goes on at its label or behind itself. -/
theorem resume_popJumpIf (straight : code.Straight) {expected : Bool}
    (here : code.HasAt i (.popJumpIf expected id)) (there : code.HasAt j (.label id))
    (condition : Value) :
    code.resume ⟨i, ⟨condition :: below⟩⟩ =
      if condition.isTruthy = expected then code.resume ⟨j, ⟨below⟩⟩
      else code.resume ⟨i + 1, ⟨below⟩⟩ := by
  rw [straight.resume_eq_step here.1]
  simp only [Instr.map, step, popValue, Stack.pop?, goTo, straight.target? there.1, ok_bind]
  split <;> rfl

/-- The test that coalescing and conditionals begin with: compare the topmost value with a literal,
and go on at a label if the answer is the expected one. -/
theorem resume_test (straight : code.Straight) {w : Value} {expected : Bool}
    (pushed : code.HasAt i (.constant w)) (compared : code.HasAt (i + 1) (.operate .equal))
    (tested : code.HasAt (i + 1 + 1) (.popJumpIf expected id))
    (there : code.HasAt j (.label id)) (narrowed : w.narrow = w) (v : Value) :
    code.resume ⟨i, ⟨v :: below⟩⟩ =
      if v.equals w = expected then code.resume ⟨j, ⟨below⟩⟩
      else code.resume ⟨i + 1 + 1 + 1, ⟨below⟩⟩ := by
  have carried : BinaryOp.equal.operation? = some .equal := rfl
  have answer : Value.evalBinary .equal v w = .ok (.bool (v.equals w)) := by
    cases v <;> cases w <;> rfl
  rw [straight.resume_constant pushed, narrowed, straight.resume_operate carried compared, answer,
    mapError_ok, ok_bind, straight.resume_popJumpIf tested there]
  rfl

end Code.Straight

/-! ### Expressions

The induction over a tree has one lemma for each kind of node. What it carries is that the code of
the tree runs as evaluation says at every place and on every stack. -/

/-- Wherever the code of an expression stands, it runs on into what follows it with the value of the
expression pushed, or fails as evaluation does. -/
def Code.Runs (code : Code) (e : Expr) : Prop :=
  ∀ (i next : Nat) (below : List Value), code.Contains i (e.code next) →
    code.resume ⟨i, ⟨below⟩⟩ = (do
      let v ← e.eval.mapError EvalFault.machineFault
      code.resume ⟨i + (e.code next).length, ⟨v :: below⟩⟩)

namespace Code.Straight

variable {code : Code}

/-- The code of a literal pushes it. -/
theorem runs_value (straight : code.Straight) (span : Span) (v : Value) :
    code.Runs (.value span v) := by
  intro i next below contained
  simp only [Expr.code, contains_cons] at contained
  rw [straight.resume_constant contained.1]
  rfl

/-- The code of a sign runs behind that of its operand. -/
theorem runs_unary (straight : code.Straight) {operand : Expr} (operandRuns : code.Runs operand)
    (op : UnaryOp) (opSpan : Span) : code.Runs (.unary op opSpan operand) := by
  intro i next below contained
  cases op with
  | plus =>
      simp only [Expr.code, List.append_nil] at contained ⊢
      exact operandRuns i next below contained
  | minus =>
      have finish : i + ((Expr.unary .minus opSpan operand).code next).length =
          i + (operand.code next).length + 1 := by
        simp [Expr.code, Nat.add_assoc]
      simp only [Expr.code, contains_append, contains_cons] at contained
      obtain ⟨operandHere, negateHere, _⟩ := contained
      rw [operandRuns i next below operandHere, finish, Expr.eval]
      cases operand.eval with
      | error fault => rfl
      | ok v => exact straight.resume_negate negateHere v

/-- The code of an operation runs behind that of its operands, the left one first. -/
theorem runs_binary (straight : code.Straight) {left right : Expr} (leftRuns : code.Runs left)
    (rightRuns : code.Runs right) (family : Family) {op : BinaryOp} {operation : Operation}
    (carried : op.operation? = some operation) : code.Runs (.binary family op left right) := by
  intro i next below contained
  have finish : i + ((Expr.binary family op left right).code next).length =
      i + (left.code next).length + (right.code (next + left.labelCount)).length + 1 := by
    simp [Expr.code, carried, Nat.add_assoc]
  simp only [Expr.code, carried, Option.toList_some, List.map_cons, List.append_assoc,
    contains_append, contains_cons] at contained
  obtain ⟨leftHere, rightHere, operateHere, _⟩ := contained
  rw [leftRuns i next below leftHere, finish, Expr.eval]
  cases left.eval with
  | error fault => rfl
  | ok l =>
      simp only [mapError_ok, ok_bind]
      rw [rightRuns _ _ _ rightHere]
      cases right.eval with
      | error fault => rfl
      | ok r => exact straight.resume_operate carried operateHere l r

/-- The code of the right side is jumped over unless the left one is null. -/
theorem runs_coalesce (straight : code.Straight) {left right : Expr} (leftRuns : code.Runs left)
    (rightRuns : code.Runs right) : code.Runs (.coalesce left right) := by
  intro i next below contained
  have finish : i + ((Expr.coalesce left right).code next).length =
      i + (left.code (next + 2)).length + 1 + 1 + 1 + 1 + 1 +
        (right.code (next + 2 + left.labelCount)).length + 1 + 1 + 1 := by
    simp [Expr.code]
    omega
  simp only [Expr.code, List.append_assoc, List.cons_append, List.nil_append, contains_append,
    contains_cons] at contained
  obtain ⟨leftHere, dupHere, nullHere, equalHere, testHere, popHere, rightHere, jumpHere,
    keepHere, endHere, _⟩ := contained
  rw [leftRuns _ _ _ leftHere, finish, Expr.eval]
  cases left.eval with
  | error fault => rfl
  | ok l =>
      simp only [mapError_ok, ok_bind]
      rw [straight.resume_dup dupHere,
        straight.resume_test nullHere equalHere testHere keepHere rfl]
      cases l.equals .null with
      | true =>
          simp only [Bool.true_eq_false, if_false, if_true]
          rw [straight.resume_pop popHere, rightRuns _ _ _ rightHere]
          cases right.eval with
          | error fault => rfl
          | ok r =>
              simp only [mapError_ok, ok_bind]
              rw [straight.resume_jump jumpHere endHere, straight.resume_label endHere]
      | false =>
          simp only [Bool.false_eq_true, if_false, if_true, mapError_ok, ok_bind]
          rw [straight.resume_label keepHere, straight.resume_label endHere]

/-- The code of one branch runs behind that of the condition, and the other is jumped over. -/
theorem runs_conditional (straight : code.Straight) {cond ifTrue ifFalse : Expr}
    (condRuns : code.Runs cond) (trueRuns : code.Runs ifTrue) (falseRuns : code.Runs ifFalse) :
    code.Runs (.conditional cond ifTrue ifFalse) := by
  intro i next below contained
  have finish : i + ((Expr.conditional cond ifTrue ifFalse).code next).length =
      i + (cond.code (next + 2)).length + 1 + 1 + 1 +
        (ifFalse.code (next + 2 + cond.labelCount)).length + 1 + 1 +
        (ifTrue.code (next + 2 + cond.labelCount + ifFalse.labelCount)).length + 1 := by
    simp [Expr.code]
    omega
  simp only [Expr.code, List.append_assoc, List.cons_append, List.nil_append, contains_append,
    contains_cons] at contained
  obtain ⟨condHere, trueHere, equalHere, testHere, falseHere, jumpHere, thenHere, branchHere,
    endHere, _⟩ := contained
  rw [condRuns _ _ _ condHere, finish, Expr.eval]
  cases cond.eval with
  | error fault => rfl
  | ok c =>
      simp only [mapError_ok, ok_bind]
      rw [straight.resume_test trueHere equalHere testHere thenHere rfl]
      cases c.equals (.bool true) with
      | true =>
          simp only [if_true]
          rw [straight.resume_label thenHere, trueRuns _ _ _ branchHere]
          cases ifTrue.eval with
          | error fault => rfl
          | ok v =>
              simp only [mapError_ok, ok_bind]
              rw [straight.resume_label endHere]
      | false =>
          simp only [Bool.false_eq_true, if_false]
          rw [falseRuns _ _ _ falseHere]
          cases ifFalse.eval with
          | error fault => rfl
          | ok v =>
              simp only [mapError_ok, ok_bind]
              rw [straight.resume_jump jumpHere endHere, straight.resume_label endHere]

/-- A conditional without an alternative runs like one whose alternative is null. -/
theorem runs_guarded (straight : code.Straight) {cond ifTrue : Expr} (condRuns : code.Runs cond)
    (trueRuns : code.Runs ifTrue) : code.Runs (.guarded cond ifTrue) := by
  have nullRuns := straight.runs_value ifTrue.span .null
  have completed := straight.runs_conditional condRuns trueRuns nullRuns
  intro i next below contained
  have sameCode : (Expr.guarded cond ifTrue).code next =
      (Expr.conditional cond ifTrue (.value ifTrue.span .null)).code next := by
    simp [Expr.code, Expr.labelCount]
  rw [sameCode] at contained ⊢
  exact completed i next below contained

/-- By induction over the tree, the code of every tree without an obstacle runs. -/
theorem runs (straight : code.Straight) (e : Expr) (clear : e.obstacle? = none) : code.Runs e := by
  induction e with
  | value span v => exact straight.runs_value span v
  | unary op opSpan operand operandRuns =>
      exact straight.runs_unary (operandRuns clear) op opSpan
  | binary family op left right leftRuns rightRuns =>
      simp only [Expr.obstacle?, Option.or_eq_none_iff, ite_eq_right_iff, reduceCtorEq, imp_false,
        Bool.not_eq_true, Option.isNone_eq_false_iff, Option.isSome_iff_exists] at clear
      obtain ⟨⟨leftClear, rightClear⟩, operation, carried⟩ := clear
      exact straight.runs_binary (leftRuns leftClear) (rightRuns rightClear) family carried
  | coalesce left right leftRuns rightRuns =>
      obtain ⟨leftClear, rightClear⟩ := Option.or_eq_none_iff.mp clear
      exact straight.runs_coalesce (leftRuns leftClear) (rightRuns rightClear)
  | conditional cond ifTrue ifFalse condRuns trueRuns falseRuns =>
      obtain ⟨otherClear, trueClear⟩ := Option.or_eq_none_iff.mp clear
      obtain ⟨condClear, falseClear⟩ := Option.or_eq_none_iff.mp otherClear
      exact straight.runs_conditional (condRuns condClear) (trueRuns trueClear)
        (falseRuns falseClear)
  | guarded cond ifTrue condRuns trueRuns =>
      obtain ⟨condClear, trueClear⟩ := Option.or_eq_none_iff.mp clear
      exact straight.runs_guarded (condRuns condClear) (trueRuns trueClear)
  | error diagnostic => cases clear

/-! ### Statements -/

/-- The code of a row of expressions pushes their values, the last of them topmost. -/
theorem resume_codeAll (straight : code.Straight) (exprs : List Expr)
    (clear : ∀ e ∈ exprs, e.obstacle? = none) {i next : Nat} {below : List Value}
    (contained : code.Contains i (Expr.codeAll exprs next)) :
    code.resume ⟨i, ⟨below⟩⟩ = (do
      let values ← (Expr.evalAll exprs).mapError EvalFault.machineFault
      code.resume ⟨i + (Expr.codeAll exprs next).length, ⟨values.reverse ++ below⟩⟩) := by
  induction exprs generalizing i next below with
  | nil => rfl
  | cons e rest inductionHypothesis =>
      have headRuns := straight.runs e (clear e (by simp))
      have restClear : ∀ e ∈ rest, e.obstacle? = none :=
        fun other member => clear other (by simp [member])
      simp only [Expr.codeAll, contains_append] at contained
      rw [headRuns i next below contained.1, Expr.evalAll]
      cases e.eval with
      | error fault => rfl
      | ok v =>
          simp only [mapError_ok, ok_bind]
          rw [inductionHypothesis restClear contained.2]
          cases Expr.evalAll rest with
          | error fault => rfl
          | ok values => simp [Expr.codeAll, Nat.add_assoc]

end Code.Straight

namespace Stmt

/-- Lowering succeeds if no expression has an obstacle, and gives the assembled code of all
expressions. -/
theorem lower_eq_ok {s : Stmt} {code : Code} :
    s.lower = .ok code ↔
      (∀ e ∈ s.expressions, e.obstacle? = none) ∧
        code = .assemble (Expr.codeAll s.expressions 0) := by
  rw [lower_eq]
  cases found : s.expressions.findSome? Expr.obstacle? with
  | some obstacle =>
      obtain ⟨e, member, blocked⟩ := List.exists_of_findSome?_eq_some found
      simp only [reduceCtorEq, false_iff, not_and]
      intro clear
      rw [clear e member] at blocked
      cases blocked
  | none =>
      rw [List.findSome?_eq_none_iff] at found
      simp only [Except.ok.injEq]
      exact ⟨fun same => ⟨found, same.symm⟩, fun lowered => lowered.2.symm⟩

/-- With a step for every instruction, lowered code runs as its statement is evaluated. -/
theorem run_of_lower {s : Stmt} {code : Code} (lowered : s.lower = .ok code) {limit : Nat}
    (enough : code.instrs.length ≤ limit) :
    code.run limit = s.eval.mapError EvalFault.machineFault := by
  obtain ⟨clear, rfl⟩ := lower_eq_ok.mp lowered
  have straight := Code.assemble_straight s.expressions
  have contained := Code.assemble_contains (Expr.codeAll s.expressions 0)
  have ended : (Code.assemble (Expr.codeAll s.expressions 0)).instrs.length =
      (Expr.codeAll s.expressions 0).length := by
    simp [Code.instrs_assemble]
  rw [straight.run_eq_resume enough, eval_eq_evalAll]
  refine (straight.resume_codeAll s.expressions clear contained).trans ?_
  cases Expr.evalAll s.expressions with
  | error fault => rfl
  | ok values =>
      simp only [mapError_ok, ok_bind]
      rw [Code.resume_of_length_le (by simp [ended])]
      simp [Stack.toList]

/-- Running lowered code on a fresh machine is evaluating its statement. The limit on the steps
plays no part: any that allows a step for each instruction gives the same. There is one value for
each expression, and an operator that cannot be applied is the only way to fail, so that no operand,
label or constant is ever missing. -/
theorem execute_lower_eq_eval {s : Stmt} {code : Code} (lowered : s.lower = .ok code) :
    code.execute = s.eval.mapError EvalFault.machineFault ∧
      (∀ limit, code.instrs.length ≤ limit → code.run limit = code.execute) ∧
      (∀ values, code.execute = .ok values → values.length = s.expressions.length) ∧
      ∀ fault, code.execute = .error fault →
        (∃ cause op left right, fault = .binaryFault cause op left right) ∨
          ∃ cause operand, fault = .negateFault cause operand := by
  have executed : code.execute = s.eval.mapError EvalFault.machineFault :=
    run_of_lower lowered (Nat.le_refl _)
  refine ⟨executed, ?_, ?_, ?_⟩
  · intro limit enough
    rw [executed]
    exact run_of_lower lowered enough
  · intro values finished
    rw [executed, eval_eq_evalAll] at finished
    cases evaluated : Expr.evalAll s.expressions with
    | error fault =>
        rw [evaluated] at finished
        cases finished
    | ok results =>
        rw [evaluated] at finished
        cases finished
        exact Expr.length_of_evalAll evaluated
  · intro fault failed
    rw [executed] at failed
    cases evaluated : s.eval with
    | ok results =>
        rw [evaluated] at failed
        cases failed
    | error cause =>
        rw [evaluated] at failed
        cases failed
        cases cause with
        | binary cause op left right => exact Or.inl ⟨cause, op, left, right, rfl⟩
        | negate cause operand => exact Or.inr ⟨cause, operand, rfl⟩

/-- The statements `null ?? (6 and 3)` and `2 < 1 ? -"a"`, the second in a block of its own. -/
def nestedSample : Stmt :=
  .block
    [.expression (.coalesce (.value .endOfInput .null)
      (.binary .logical .andWord (.value .endOfInput (.integer 6))
        (.value .endOfInput (.integer 3)))),
    .block [.expression (.guarded
      (.binary .relational .less (.value .endOfInput (.integer 2))
        (.value .endOfInput (.integer 1)))
      (.unary .minus .endOfInput (.value .endOfInput (.string "a"))))]]

/-- The word `and` between integers is bitwise, and the branch that would fail is not taken. -/
theorem execute_lower_nestedSample :
    ∃ code, nestedSample.lower = .ok code ∧ code.execute = .ok [.integer 2, .null] := by
  have lowered : nestedSample.lower = .ok (.assemble (Expr.codeAll nestedSample.expressions 0)) :=
    lower_eq _
  refine ⟨_, lowered, ?_⟩
  rw [(execute_lower_eq_eval lowered).1]
  rfl

end Stmt

end Reckon
