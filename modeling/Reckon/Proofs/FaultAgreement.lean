/-
Module: Reckon.Proofs.FaultAgreement
Purpose: What folding finds wrong with a tree, and what its evaluation finds wrong. Evaluation
  carries out some operations that folding refuses: a plus sign before what is no number, a bitwise
  operator between booleans, a logical one between integers, and a condition that is no boolean.
  Apart from these the two agree: a tree folds to its value, or the first error node of the folded
  tree is about the operation at which evaluation fails.
Main exports: BinaryOp.Stretches, Expr.Lenient, Expr.Agrees, Expr.agrees_fold,
  Expr.not_lenient_of_fold, evaluate_error_iff, Expr.Plain, Expr.firstError?_fold_of_plain
-/
import Reckon.Proofs.SingleExpression

namespace Reckon

/-! ### Where evaluation is lenient -/

/-- Operands that an operator takes in evaluation and not in folding: a bitwise operator and a
logical one share their operation, so each takes the operands of the other. -/
inductive BinaryOp.Stretches : BinaryOp → Value → Value → Prop where
  | bools {op : BinaryOp} {a b : Bool} (bitwise : op.family? = some .bitwise) :
      Stretches op (.bool a) (.bool b)
  | integers {op : BinaryOp} {a b : Int64} (logical : op.family? = some .logical) :
      Stretches op (.integer a) (.integer b)

/-- The evaluation of a tree comes to an operation that folding refuses whatever evaluation makes of
it. Parts that evaluation does not come to are not looked at. -/
def Expr.Lenient : Expr → Prop
  | .value _ _ => False
  | .unary op _ operand =>
    operand.Lenient ∨ op = .plus ∧ ∃ v, operand.eval = .ok v ∧ v.number? = none
  | .binary _ op left right =>
    left.Lenient ∨
      ∃ l, left.eval = .ok l ∧ (right.Lenient ∨ ∃ r, right.eval = .ok r ∧ op.Stretches l r)
  | .coalesce left right => left.Lenient ∨ left.eval = .ok .null ∧ right.Lenient
  | .conditional cond ifTrue ifFalse =>
    cond.Lenient ∨ (∃ c, cond.eval = .ok c ∧ ∀ b, c ≠ .bool b) ∨
      cond.eval = .ok (.bool true) ∧ ifTrue.Lenient ∨ cond.eval = .ok (.bool false) ∧
        ifFalse.Lenient
  | .guarded cond ifTrue =>
    cond.Lenient ∨ (∃ c, cond.eval = .ok c ∧ ∀ b, c ≠ .bool b) ∨
      cond.eval = .ok (.bool true) ∧ ifTrue.Lenient
  | .error _ => False

namespace Value

variable {op : BinaryOp} {left right : Value}

/-- Where evaluation is lenient, folding complains. -/
theorem binary_of_stretches (stretches : op.Stretches left right) :
    binary op left right = .error .unsupported := by
  cases stretches with
  | bools bitwise => cases op <;> cases bitwise <;> rfl
  | integers logical => cases op <;> cases logical <;> rfl

/-- Evaluation applies an operator as folding does, except that it names a logical operator like the
bitwise one that shares its operation. -/
theorem evalBinary_eq (strict : ¬ op.Stretches left right) :
    evalBinary op left right =
      (binary op left right).mapError fun fault =>
        .binary fault op.onOthers left.kind right.kind := by
  cases op with
  | bitAnd | bitOr | bitXor =>
      cases left <;> cases right
      case bool.bool => exact absurd (.bools rfl) strict
      all_goals rfl
  | andAnd | orOr | andWord | xorWord =>
      cases left <;> cases right
      case integer.integer => exact absurd (.integers rfl) strict
      all_goals rfl
  | _ => cases left <;> cases right <;> rfl

/-- A plus sign before a number narrows it. -/
theorem unary_plus {v : Value} (number : v.number? ≠ none) : unary .plus v = .ok v.narrow := by
  cases v with
  | integer n => rfl
  | float x => rfl
  | _ => exact absurd rfl number

/-- A plus sign is accepted before numbers only. -/
theorem unary_plus_eq_ok {v result : Value} (applied : unary .plus v = .ok result) :
    v.number? ≠ none := by
  cases v with
  | integer n => simp [number?]
  | float x => simp [number?]
  | _ => cases applied

end Value

namespace Expr

/-- In a tree that folds to a literal, evaluation comes to nothing that folding would refuse. -/
theorem not_lenient_of_fold {e : Expr} {span : Span} {v : Value} (folded : e.fold = .value span v) :
    ¬ e.Lenient := by
  induction e generalizing span v with
  | value | error => exact id
  | unary op opSpan operand operandStrict =>
      obtain ⟨operandSpan, w, operandEq, applied⟩ := foldUnary_eq_value folded
      rintro (inOperand | ⟨rfl, w', evaluated, noNumber⟩)
      · exact operandStrict operandEq inOperand
      · rw [eval_of_fold operandEq] at evaluated
        cases evaluated
        exact Value.unary_plus_eq_ok applied noNumber
  | binary family op left right leftStrict rightStrict =>
      obtain ⟨_, l, _, r, leftEq, rightEq, literals⟩ := foldBinary_eq_value folded
      have applied := (foldLiterals_eq_value literals).2
      rintro (inLeft | ⟨l', leftEval, inRight | ⟨r', rightEval, stretches⟩⟩)
      · exact leftStrict leftEq inLeft
      · exact rightStrict rightEq inRight
      · rw [eval_of_fold leftEq] at leftEval
        rw [eval_of_fold rightEq] at rightEval
        cases leftEval
        cases rightEval
        rw [Value.binary_of_stretches stretches] at applied
        cases applied
  | coalesce left right leftStrict rightStrict =>
      rcases foldCoalesce_eq_value folded with ⟨_, leftEq, rightEq⟩ | ⟨leftEq, notNull⟩
      · rintro (inLeft | ⟨_, inRight⟩)
        · exact leftStrict leftEq inLeft
        · exact rightStrict rightEq inRight
      · rintro (inLeft | ⟨isNull, _⟩)
        · exact leftStrict leftEq inLeft
        · rw [eval_of_fold leftEq] at isNull
          cases isNull
          exact notNull rfl
  | conditional cond ifTrue ifFalse condStrict trueStrict falseStrict =>
      rcases foldConditional_eq_value folded with ⟨_, condEq, branchEq⟩ | ⟨_, condEq, branchEq⟩
      all_goals
        simp only [Lenient, eval_of_fold condEq, Except.ok.injEq, Value.bool.injEq, reduceCtorEq,
          false_and, true_and, or_false, false_or]
        rintro (inCond | ⟨c, rfl, noBool⟩ | inBranch)
        · exact condStrict condEq inCond
        · exact noBool _ rfl
      · exact trueStrict branchEq inBranch
      · exact falseStrict branchEq inBranch
  | guarded cond ifTrue condStrict trueStrict =>
      rcases foldGuarded_eq_value folded with ⟨_, condEq, branchEq⟩ | ⟨⟨_, condEq⟩, _⟩
      all_goals
        simp only [Lenient, eval_of_fold condEq, Except.ok.injEq, Value.bool.injEq, reduceCtorEq,
          false_and, true_and, or_false]
      · rintro (inCond | ⟨c, rfl, noBool⟩ | inBranch)
        · exact condStrict condEq inCond
        · exact noBool _ rfl
        · exact trueStrict branchEq inBranch
      · rintro (inCond | ⟨c, rfl, noBool⟩)
        · exact condStrict condEq inCond
        · exact noBool _ rfl

end Expr

/-! ### Agreement

The induction over a tree has one lemma for each kind of node. Each is about folded operands and
about what the operands evaluate to, and asks for the agreement of an operand only where evaluation
comes to it. -/

/-- A complaint and a fault are about the same operation on operands of the same kinds, which fails
for the same reason; the operator is an allowed one. -/
inductive Complaint.Matches (allowed : BinaryOp → Prop) : Complaint → EvalFault → Prop where
  | binary {fault : Fault} {op : BinaryOp} {left right : ValueKind} (isAllowed : allowed op) :
      Matches allowed (.binaryFault fault op left right) (.binary fault op.onOthers left right)
  | negate {fault : Fault} {operand : ValueKind} :
      Matches allowed (.unaryFault fault .minus operand) (.negate fault operand)

namespace Expr

/-- A folded tree agrees with an evaluation: it is the value, or its first error node is about the
fault. -/
inductive Agrees (allowed : BinaryOp → Prop) : Expr → Except EvalFault Value → Prop where
  | value {span : Span} {v : Value} (narrowed : v.narrow = v) :
      Agrees allowed (.value span v) (.ok v)
  | fault {folded : Expr} {diagnostic : Diagnostic} {fault : EvalFault}
      (failing : folded.firstError? = some diagnostic)
      (same : diagnostic.complaint.Matches allowed fault) :
      Agrees allowed folded (.error fault)

section Nodes

variable {allowed : BinaryOp → Prop} {x y z : Except EvalFault Value}

/-- A plus sign before a number agrees with its absence, which is all that evaluation sees. -/
theorem agrees_plus {operand : Expr} (opSpan : Span) (inOperand : Agrees allowed operand x)
    (number : ∀ v, x = .ok v → v.number? ≠ none) :
    Agrees allowed (foldUnary .plus opSpan operand) x := by
  cases inOperand with
  | @value span v narrowed =>
      simp only [foldUnary, Value.unary_plus (number v rfl), narrowed]
      exact .value narrowed
  | fault failing same => exact .fault (firstError?_foldUnary .plus opSpan failing) same

/-- Minus signs agree. -/
theorem agrees_minus {operand : Expr} (opSpan : Span) (inOperand : Agrees allowed operand x) :
    Agrees allowed (foldUnary .minus opSpan operand) (x >>= Value.evalNegate) := by
  cases inOperand with
  | @value span v narrowed =>
      simp only [foldUnary, ok_bind, Value.evalNegate]
      cases applied : Value.unary .minus v with
      | ok result => exact .value (Value.narrow_of_unary applied)
      | error fault => exact .fault rfl .negate
  | fault failing same => exact .fault (firstError?_foldUnary .minus opSpan failing) same

/-- Operations on two literals agree, where evaluation is not lenient. -/
theorem agrees_foldLiterals {op : BinaryOp} {l r : Value} (family : Family) (span : Span)
    (isAllowed : allowed op) (noIdentity : op ≠ .same ∧ op ≠ .notSame)
    (strict : ¬ op.Stretches l r) :
    Agrees allowed (foldLiterals family op span l r) (Value.evalBinary op l r) := by
  have noComplaint : identityComplaint? family op l.kind = none := by
    unfold identityComplaint?
    split
    · exact absurd rfl noIdentity.1
    · exact absurd rfl noIdentity.2
    · rfl
  rw [Value.evalBinary_eq strict]
  simp only [foldLiterals, noComplaint]
  cases applied : Value.binary op l r with
  | ok result => exact .value (Value.narrow_of_binary applied)
  | error fault => exact .fault rfl (.binary isAllowed)

/-- Operations agree: the first operand that fails decides for both. -/
theorem agrees_foldBinary {op : BinaryOp} {left right : Expr} (family : Family)
    (isAllowed : allowed op) (noIdentity : op ≠ .same ∧ op ≠ .notSame)
    (inLeft : Agrees allowed left x) (inRight : ∀ l, x = .ok l → Agrees allowed right y)
    (strict : ∀ l r, x = .ok l → y = .ok r → ¬ op.Stretches l r) :
    Agrees allowed (foldBinary family op left right)
      (x >>= fun l => y >>= fun r => Value.evalBinary op l r) := by
  cases inLeft with
  | fault failing same => exact .fault (firstError?_foldBinary_left family op right failing) same
  | @value leftSpan l _ =>
      rw [ok_bind]
      cases inRight l rfl with
      | fault failing same =>
          exact .fault (firstError?_foldBinary_right family op leftSpan l failing) same
      | @value rightSpan r _ =>
          exact agrees_foldLiterals family _ isAllowed noIdentity (strict l r rfl rfl)

/-- Coalescing agrees: a left side that is not null decides for both. -/
theorem agrees_foldCoalesce {left right : Expr} (inLeft : Agrees allowed left x)
    (inRight : x = .ok .null → Agrees allowed right y) :
    Agrees allowed (foldCoalesce left right)
      (x >>= fun l => if l.equals .null then y else .ok l) := by
  cases inLeft with
  | fault failing same => exact .fault (firstError?_foldCoalesce right failing) same
  | @value leftSpan l narrowed =>
      rw [ok_bind]
      cases l with
      | null => exact inRight rfl
      | _ => exact .value narrowed

/-- Conditionals agree, if their conditions are truth values. -/
theorem agrees_foldConditional {cond ifTrue ifFalse : Expr} (inCond : Agrees allowed cond x)
    (decides : ∀ c, x = .ok c → ∃ b, c = .bool b)
    (inTrue : x = .ok (.bool true) → Agrees allowed ifTrue y)
    (inFalse : x = .ok (.bool false) → Agrees allowed ifFalse z) :
    Agrees allowed (foldConditional cond ifTrue ifFalse)
      (x >>= fun c => if c.equals (.bool true) then y else z) := by
  cases inCond with
  | fault failing same => exact .fault (firstError?_foldConditional ifTrue ifFalse failing) same
  | @value condSpan c _ =>
      obtain ⟨b, rfl⟩ := decides c rfl
      cases b with
      | true => exact inTrue rfl
      | false => exact inFalse rfl

/-- Conditionals without an alternative agree, if their conditions are truth values. -/
theorem agrees_foldGuarded {cond ifTrue : Expr} (inCond : Agrees allowed cond x)
    (decides : ∀ c, x = .ok c → ∃ b, c = .bool b)
    (inTrue : x = .ok (.bool true) → Agrees allowed ifTrue y) :
    Agrees allowed (foldGuarded cond ifTrue)
      (x >>= fun c => if c.equals (.bool true) then y else .ok .null) := by
  cases inCond with
  | fault failing same => exact .fault (firstError?_foldGuarded ifTrue failing) same
  | @value condSpan c _ =>
      obtain ⟨b, rfl⟩ := decides c rfl
      cases b with
      | true => exact inTrue rfl
      | false => exact .value rfl

end Nodes

/-- Every binary operator of a tree is an allowed one, and there is no error node. -/
def OperatorsIn (allowed : BinaryOp → Prop) : Expr → Prop
  | .value _ _ => True
  | .unary _ _ operand => operand.OperatorsIn allowed
  | .binary _ op left right => allowed op ∧ left.OperatorsIn allowed ∧ right.OperatorsIn allowed
  | .coalesce left right => left.OperatorsIn allowed ∧ right.OperatorsIn allowed
  | .conditional cond ifTrue ifFalse =>
    cond.OperatorsIn allowed ∧ ifTrue.OperatorsIn allowed ∧ ifFalse.OperatorsIn allowed
  | .guarded cond ifTrue => cond.OperatorsIn allowed ∧ ifTrue.OperatorsIn allowed
  | .error _ => False

/-- A condition that evaluation does not take for false without its being a boolean is a boolean. -/
theorem decides_of_strict {cond : Expr} (strict : ¬ ∃ c, cond.eval = .ok c ∧ ∀ b, c ≠ .bool b) :
    ∀ c, cond.eval = .ok c → ∃ b, c = .bool b := by
  intro c evaluated
  by_contra noBool
  exact strict ⟨c, evaluated, fun b isBool => noBool ⟨b, isBool⟩⟩

/-- Where evaluation is nowhere lenient, a tree without identity tests folds to what it evaluates
to. -/
theorem agrees_fold {allowed : BinaryOp → Prop}
    (noIdentity : ∀ op, allowed op → op ≠ .same ∧ op ≠ .notSame) {e : Expr}
    (operators : e.OperatorsIn allowed) (strict : ¬ e.Lenient) : Agrees allowed e.fold e.eval := by
  induction e with
  | value span v => exact .value (Value.narrow_narrow v)
  | unary op opSpan operand operandAgrees =>
      obtain ⟨operandStrict, numeric⟩ := not_or.mp strict
      have inOperand := operandAgrees operators operandStrict
      cases op with
      | plus =>
          exact agrees_plus opSpan inOperand fun v evaluated noNumber =>
            numeric ⟨rfl, v, evaluated, noNumber⟩
      | minus => exact agrees_minus opSpan inOperand
  | binary family op left right leftAgrees rightAgrees =>
      obtain ⟨isAllowed, leftOperators, rightOperators⟩ := operators
      obtain ⟨leftStrict, behindLeft⟩ := not_or.mp strict
      apply agrees_foldBinary family isAllowed (noIdentity op isAllowed)
        (leftAgrees leftOperators leftStrict)
      · intro l leftEval
        exact rightAgrees rightOperators fun inRight => behindLeft ⟨l, leftEval, .inl inRight⟩
      · intro l r leftEval rightEval stretches
        exact behindLeft ⟨l, leftEval, .inr ⟨r, rightEval, stretches⟩⟩
  | coalesce left right leftAgrees rightAgrees =>
      obtain ⟨leftStrict, behindLeft⟩ := not_or.mp strict
      apply agrees_foldCoalesce (leftAgrees operators.1 leftStrict)
      intro isNull
      exact rightAgrees operators.2 fun inRight => behindLeft ⟨isNull, inRight⟩
  | conditional cond ifTrue ifFalse condAgrees trueAgrees falseAgrees =>
      obtain ⟨condOperators, trueOperators, falseOperators⟩ := operators
      obtain ⟨condStrict, behindCond⟩ := not_or.mp strict
      obtain ⟨decides, branchesStrict⟩ := not_or.mp behindCond
      apply agrees_foldConditional (condAgrees condOperators condStrict) (decides_of_strict decides)
      · intro holds
        exact trueAgrees trueOperators fun inTrue => branchesStrict (.inl ⟨holds, inTrue⟩)
      · intro fails
        exact falseAgrees falseOperators fun inFalse => branchesStrict (.inr ⟨fails, inFalse⟩)
  | guarded cond ifTrue condAgrees trueAgrees =>
      obtain ⟨condStrict, behindCond⟩ := not_or.mp strict
      obtain ⟨decides, branchStrict⟩ := not_or.mp behindCond
      apply agrees_foldGuarded (condAgrees operators.1 condStrict) (decides_of_strict decides)
      intro holds
      exact trueAgrees operators.2 fun inTrue => branchStrict ⟨holds, inTrue⟩
  | error diagnostic => exact operators.elim

/-! ### Lowering -/

/-- A tree without the coalescing operator in a binary node can be lowered. -/
theorem obstacle?_of_operatorsIn {allowed : BinaryOp → Prop}
    (noCoalesce : ∀ op, allowed op → op ≠ .coalesce) {e : Expr}
    (operators : e.OperatorsIn allowed) : e.obstacle? = none := by
  induction e with
  | value span v => rfl
  | unary op opSpan operand operandClear => exact operandClear operators
  | binary family op left right leftClear rightClear =>
      obtain ⟨isAllowed, leftOperators, rightOperators⟩ := operators
      have carried : op.operation?.isNone = false := by
        have ne := noCoalesce op isAllowed
        revert ne
        cases op <;> decide
      simp [obstacle?, leftClear leftOperators, rightClear rightOperators, carried]
  | coalesce left right leftClear rightClear =>
      simp [obstacle?, leftClear operators.1, rightClear operators.2]
  | conditional cond ifTrue ifFalse condClear trueClear falseClear =>
      simp [obstacle?, condClear operators.1, trueClear operators.2.1, falseClear operators.2.2]
  | guarded cond ifTrue condClear trueClear =>
      simp [obstacle?, condClear operators.1, trueClear operators.2]
  | error diagnostic => exact operators.elim

/-- No node with an operator of its own family holds the coalescing operator. -/
theorem operatorsIn_of_ownFamilies {e : Expr} (own : e.OwnFamilies) :
    e.OperatorsIn fun op => op ≠ .coalesce := by
  induction e with
  | value span v => trivial
  | unary op opSpan operand operandIn => exact operandIn own
  | binary family op left right leftIn rightIn =>
      obtain ⟨ownFamily, leftOwn, rightOwn⟩ := own
      refine ⟨?_, leftIn leftOwn, rightIn rightOwn⟩
      rintro rfl
      cases ownFamily
  | coalesce left right leftIn rightIn => exact ⟨leftIn own.1, rightIn own.2⟩
  | conditional cond ifTrue ifFalse condIn trueIn falseIn =>
      exact ⟨condIn own.1, trueIn own.2.1, falseIn own.2.2⟩
  | guarded cond ifTrue condIn trueIn => exact ⟨condIn own.1, trueIn own.2⟩
  | error diagnostic => exact own

end Expr

/-- The code of a single expression runs to its value, or fails as its evaluation does. -/
theorem Stmt.execute_expression {e : Expr} (clear : e.obstacle? = none) :
    ∃ code, (Stmt.expression e).lower = .ok code ∧
      code.execute = (e.eval.map fun v => [v]).mapError EvalFault.machineFault := by
  have lowered : (Stmt.expression e).lower =
      .ok (.assemble (Expr.codeAll (Stmt.expression e).expressions 0)) := by
    rw [lower_eq_ok]
    exact ⟨by simpa [expressions] using clear, rfl⟩
  refine ⟨_, lowered, (run_of_lower lowered (Nat.le_refl _)).trans ?_⟩
  rw [eval]
  cases e.eval <;> rfl

/-! ### Programs of one expression -/

open Grammar

/-- A program that is one expression is refused if and only if folding finds an error in it. -/
theorem evaluate_of_whole {source : String} {e : Expr} (clean : (scan source).complaint? = none)
    (whole : expression nestingLimit (scan source).tokens = .ok (e, [.endOfInput])) :
    (∃ failure, evaluate source = .error failure) ↔
      ∃ diagnostic, e.fold.firstError? = some diagnostic := by
  rw [evaluate_eq_outcome, clean]
  cases found : e.fold.firstError? with
  | some diagnostic =>
      rw [parse_of_faulty whole found]
      exact ⟨fun _ => ⟨diagnostic, rfl⟩, fun _ => ⟨_, rfl⟩⟩
  | none =>
      rw [parse_of_whole whole found]
      constructor
      · rintro ⟨failure, failed⟩
        cases failed
      · rintro ⟨diagnostic, impossible⟩
        cases impossible

/-- A program that is one expression without identity tests fails if and only if the run of its
unfolded code fails or evaluation is lenient on the way. So the two agree wherever evaluation is not
lenient, and no run fails of a program that does not. -/
theorem evaluate_error_iff {source : String} {e : Expr} (clean : (scan source).complaint? = none)
    (whole : expression nestingLimit (scan source).tokens = .ok (e, [.endOfInput]))
    (noIdentity : e.OperatorsIn fun op => op ≠ .same ∧ op ≠ .notSame) :
    ∃ code, (Stmt.expression e).lower = .ok code ∧
      ((∃ failure, evaluate source = .error failure) ↔
        (∃ fault, code.execute = .error fault) ∨ e.Lenient) := by
  obtain ⟨taken, _, derives⟩ := (readsWhole_expression nestingLimit).sound _ _ _ whole
  have clear : e.obstacle? = none :=
    Expr.obstacle?_of_operatorsIn (fun _ => id)
      (Expr.operatorsIn_of_ownFamilies derives.ownFamilies)
  obtain ⟨code, lowered, executed⟩ := Stmt.execute_expression clear
  refine ⟨code, lowered, ?_⟩
  rw [evaluate_of_whole clean whole, executed]
  constructor
  · rintro ⟨diagnostic, failing⟩
    by_cases lenient : e.Lenient
    · exact .inr lenient
    · have agrees := Expr.agrees_fold (fun _ => id) noIdentity lenient
      generalize e.fold = folded at agrees failing
      generalize e.eval = evaluated at agrees
      cases agrees with
      | value _ => cases failing
      | @fault _ _ fault _ _ => exact .inl ⟨fault.machineFault, rfl⟩
  · intro failsOrLenient
    rcases e.settled_fold with ⟨span, v, folded⟩ | found
    · rcases failsOrLenient with ⟨fault, failed⟩ | lenient
      · rw [Expr.eval_of_fold folded] at failed
        cases failed
      · exact absurd lenient (Expr.not_lenient_of_fold folded)
    · exact found

/-- The tree of `1 < 2 ? 7 % 0 : (True & False)`. -/
def failingBranch : Expr :=
  .conditional
    (.binary .relational .less (.value ⟨0, 1, 1, 1⟩ (.integer 1))
      (.value ⟨4, 5, 1, 5⟩ (.integer 2)))
    (.binary .multiplicative .remainder (.value ⟨8, 9, 1, 9⟩ (.integer 7))
      (.value ⟨12, 13, 1, 13⟩ (.integer 0)))
    (.binary .bitwise .bitAnd (.value ⟨17, 21, 1, 18⟩ (.bool true))
      (.value ⟨24, 29, 1, 25⟩ (.bool false)))

/-- The branch that is taken fails; the one in which evaluation would be lenient is not taken. -/
theorem evaluate_error_iff_failingBranch :
    let source := "1 < 2 ? 7 % 0 : (True & False)"
    (scan source).complaint? = none ∧
      expression nestingLimit (scan source).tokens = .ok (failingBranch, [.endOfInput]) ∧
      (failingBranch.OperatorsIn fun op => op ≠ .same ∧ op ≠ .notSame) ∧
      ∃ code, (Stmt.expression failingBranch).lower = .ok code ∧
        ((∃ failure, evaluate source = .error failure) ↔
          (∃ fault, code.execute = .error fault) ∨ failingBranch.Lenient) := by
  intro source
  have clean : (scan source).complaint? = none := by decide +kernel
  have whole : expression nestingLimit (scan source).tokens = .ok (failingBranch, [.endOfInput]) :=
    eq_ok_of_toOption (by decide +kernel)
  have noIdentity : failingBranch.OperatorsIn fun op => op ≠ .same ∧ op ≠ .notSame := by
    simp [failingBranch, Expr.OperatorsIn]
  exact ⟨clean, whole, noIdentity, evaluate_error_iff clean whole noIdentity⟩

/-- A plus sign before a boolean is refused, and its code runs. -/
theorem evaluate_signedBool :
    let e : Expr := .unary .plus ⟨0, 0, 1, 1⟩ (.value ⟨1, 5, 1, 2⟩ (.bool true))
    (scan "+True").complaint? = none ∧
      expression nestingLimit (scan "+True").tokens = .ok (e, [.endOfInput]) ∧
      (e.OperatorsIn fun op => op ≠ .same ∧ op ≠ .notSame) ∧
      evaluate "+True" = .error (.refused ⟨.unaryFault .unsupported .plus .bool, ⟨0, 5, 1, 2⟩⟩) ∧
      ∃ code, (Stmt.expression e).lower = .ok code ∧ code.execute = .ok [.bool true] := by
  intro e
  refine ⟨by decide +kernel, eq_ok_of_toOption (by decide +kernel), trivial, by decide +kernel, ?_⟩
  exact Stmt.execute_expression rfl

/-! ### Plain trees

In the trees of this section evaluation is nowhere lenient and names every operator as folding does,
so that the two say the same of the first fault. -/

/-- Comparisons of numbers, and equality. -/
def BinaryOp.isComparison : BinaryOp → Bool
  | .greater | .greaterEqual | .less | .lessEqual | .equal | .notEqual => true
  | _ => false

/-- Arithmetic, shifts and comparisons. -/
def BinaryOp.isPlain : BinaryOp → Bool
  | .plus | .minus | .times | .divide | .floorDivide | .remainder | .power | .shiftLeft
  | .shiftRight => true
  | op => op.isComparison

namespace Expr

/-- A comparison of two trees. -/
def IsComparison : Expr → Prop
  | .binary _ op _ _ => op.isComparison = true
  | _ => False

/-- Trees with no sign but minus, no operators but arithmetic, shifts and comparisons, no conditions
but comparisons, and no error node. -/
def Plain : Expr → Prop
  | .value _ _ => True
  | .unary op _ operand => op = .minus ∧ operand.Plain
  | .binary _ op left right => op.isPlain = true ∧ left.Plain ∧ right.Plain
  | .coalesce left right => left.Plain ∧ right.Plain
  | .conditional cond ifTrue ifFalse =>
      cond.IsComparison ∧ cond.Plain ∧ ifTrue.Plain ∧ ifFalse.Plain
  | .guarded cond ifTrue => cond.IsComparison ∧ cond.Plain ∧ ifTrue.Plain
  | .error _ => False

end Expr

section Operators

variable {op : BinaryOp} {left right v : Value}

/-- A plain operator is never lenient. -/
theorem BinaryOp.not_stretches_of_isPlain (plain : op.isPlain = true) :
    ¬ op.Stretches left right := by
  intro stretches
  cases stretches with
  | bools bitwise => cases op <;> cases bitwise <;> cases plain
  | integers logical => cases op <;> cases logical <;> cases plain

/-- Comparisons are plain. -/
theorem BinaryOp.isPlain_of_isComparison (compares : op.isComparison = true) :
    op.isPlain = true := by
  cases op <;> cases compares <;> rfl

theorem Value.exists_bool_of_compareWith {integers : Int64 → Int64 → Bool}
    {floats : Float → Float → Bool} (compared : compareWith integers floats left right = .ok v) :
    ∃ b, v = .bool b := by
  unfold compareWith at compared
  split at compared
  · cases compared
    exact ⟨_, rfl⟩
  · cases compared
    exact ⟨_, rfl⟩
  · cases compared

/-- A comparison that succeeds gives a truth value. -/
theorem Value.exists_bool_of_rule (compares : op.isComparison = true)
    (ruled : rule op left right = .ok v) : ∃ b, v = .bool b := by
  cases op with
  | greater | greaterEqual | less | lessEqual => exact exists_bool_of_compareWith ruled
  | equal | notEqual =>
      cases ruled
      exact ⟨_, rfl⟩
  | _ => cases compares

/-- A comparison evaluates to a boolean, if to anything. -/
theorem Value.exists_bool_of_evalBinary (compares : op.isComparison = true)
    (evaluated : evalBinary op left right = .ok v) : ∃ b, v = .bool b := by
  have strict : ¬ op.Stretches left right :=
    BinaryOp.not_stretches_of_isPlain (BinaryOp.isPlain_of_isComparison compares)
  rw [evalBinary_eq strict, binary] at evaluated
  cases ruled : rule op left right with
  | error fault =>
      rw [ruled] at evaluated
      cases evaluated
  | ok result =>
      obtain ⟨b, rfl⟩ := exists_bool_of_rule compares ruled
      rw [ruled] at evaluated
      cases evaluated
      exact ⟨b, rfl⟩

end Operators

namespace Expr

/-- A condition that compares has a truth value, if it has a value. -/
theorem IsComparison.exists_bool {cond : Expr} {c : Value} (compares : cond.IsComparison)
    (evaluated : cond.eval = .ok c) : ∃ b, c = .bool b := by
  cases cond with
  | binary family op left right =>
      obtain ⟨l, _, evaluated⟩ := bind_eq_ok.mp evaluated
      obtain ⟨r, _, evaluated⟩ := bind_eq_ok.mp evaluated
      exact Value.exists_bool_of_evalBinary compares evaluated
  | _ => exact compares.elim

/-- A plain tree holds plain operators only. -/
theorem Plain.operatorsIn {e : Expr} (plain : e.Plain) :
    e.OperatorsIn fun op => op.isPlain = true := by
  induction e with
  | value span v => trivial
  | unary op opSpan operand operandIn => exact operandIn plain.2
  | binary family op left right leftIn rightIn =>
      exact ⟨plain.1, leftIn plain.2.1, rightIn plain.2.2⟩
  | coalesce left right leftIn rightIn => exact ⟨leftIn plain.1, rightIn plain.2⟩
  | conditional cond ifTrue ifFalse condIn trueIn falseIn =>
      exact ⟨condIn plain.2.1, trueIn plain.2.2.1, falseIn plain.2.2.2⟩
  | guarded cond ifTrue condIn trueIn => exact ⟨condIn plain.2.1, trueIn plain.2.2⟩
  | error diagnostic => exact plain

/-- A plain tree is nowhere evaluated leniently. -/
theorem Plain.not_lenient {e : Expr} (plain : e.Plain) : ¬ e.Lenient := by
  induction e with
  | value | error => exact id
  | unary op opSpan operand operandStrict =>
      obtain ⟨rfl, operandPlain⟩ := plain
      rintro (inOperand | ⟨isPlus, _⟩)
      · exact operandStrict operandPlain inOperand
      · cases isPlus
  | binary family op left right leftStrict rightStrict =>
      obtain ⟨opPlain, leftPlain, rightPlain⟩ := plain
      rintro (inLeft | ⟨l, _, inRight | ⟨r, _, stretches⟩⟩)
      · exact leftStrict leftPlain inLeft
      · exact rightStrict rightPlain inRight
      · exact BinaryOp.not_stretches_of_isPlain opPlain stretches
  | coalesce left right leftStrict rightStrict =>
      rintro (inLeft | ⟨_, inRight⟩)
      · exact leftStrict plain.1 inLeft
      · exact rightStrict plain.2 inRight
  | conditional cond ifTrue ifFalse condStrict trueStrict falseStrict =>
      obtain ⟨compares, condPlain, truePlain, falsePlain⟩ := plain
      rintro (inCond | ⟨c, evaluated, noBool⟩ | ⟨_, inTrue⟩ | ⟨_, inFalse⟩)
      · exact condStrict condPlain inCond
      · obtain ⟨b, isBool⟩ := compares.exists_bool evaluated
        exact noBool b isBool
      · exact trueStrict truePlain inTrue
      · exact falseStrict falsePlain inFalse
  | guarded cond ifTrue condStrict trueStrict =>
      obtain ⟨compares, condPlain, truePlain⟩ := plain
      rintro (inCond | ⟨c, evaluated, noBool⟩ | ⟨_, inTrue⟩)
      · exact condStrict condPlain inCond
      · obtain ⟨b, isBool⟩ := compares.exists_bool evaluated
        exact noBool b isBool
      · exact trueStrict truePlain inTrue

end Expr

/-- A complaint and a fault about the same operation of a plain operator are worded alike. -/
theorem Complaint.Matches.message_eq {complaint : Complaint} {fault : EvalFault}
    (same : complaint.Matches (fun op => op.isPlain = true) fault) :
    fault.machineFault.report.message = complaint.text := by
  cases same with
  | @binary cause op left right plain =>
      have sameOperator : op.onOthers = op := by
        cases op <;> cases plain <;> rfl
      rw [sameOperator]
      rfl
  | negate => rfl

/-- If a plain tree does not fold to a literal, there is a first error node in what it folds to, and
the run of its unfolded code fails with the message that this node has for its text. -/
theorem Expr.firstError?_fold_of_plain {e : Expr} (plain : e.Plain)
    (stuck : ∀ span v, e.fold ≠ .value span v) :
    ∃ diagnostic code fault, e.fold.firstError? = some diagnostic ∧
      (Stmt.expression e).lower = .ok code ∧
      code.execute = .error fault ∧ fault.report.origin = .runtime ∧
      fault.report.message = diagnostic.complaint.text := by
  have noIdentity : ∀ op : BinaryOp, op.isPlain = true → op ≠ .same ∧ op ≠ .notSame := by
    intro op opPlain
    constructor <;> (rintro rfl; cases opPlain)
  have noCoalesce : ∀ op : BinaryOp, op.isPlain = true → op ≠ .coalesce := by
    rintro op opPlain rfl
    cases opPlain
  obtain ⟨code, lowered, executed⟩ :=
    Stmt.execute_expression (obstacle?_of_operatorsIn noCoalesce plain.operatorsIn)
  have agrees := agrees_fold noIdentity plain.operatorsIn plain.not_lenient
  generalize e.fold = folded at agrees stuck ⊢
  generalize e.eval = evaluated at agrees executed
  cases agrees with
  | @value span v _ => exact absurd rfl (stuck span v)
  | @fault _ diagnostic fault failing same =>
      exact ⟨diagnostic, code, fault.machineFault, failing, lowered, executed, rfl, same.message_eq⟩

/-- The tree of `null ?? (2 > 1 ? "a" - 1 : 1 << 64) * (7 % 0)`. -/
def twoFaults : Expr :=
  .coalesce (.value .endOfInput .null)
    (.binary .multiplicative .times
      (.conditional
        (.binary .relational .greater (.value .endOfInput (.integer 2))
          (.value .endOfInput (.integer 1)))
        (.binary .additive .minus (.value .endOfInput (.string "a"))
          (.value .endOfInput (.integer 1)))
        (.binary .shift .shiftLeft (.value .endOfInput (.integer 1))
          (.value .endOfInput (.integer 64))))
      (.binary .multiplicative .remainder (.value .endOfInput (.integer 7))
        (.value .endOfInput (.integer 0))))

/-- Of the three faults one is in a branch that is not taken and one comes later. -/
theorem firstError?_fold_twoFaults :
    twoFaults.Plain ∧ (∀ span v, twoFaults.fold ≠ .value span v) ∧
      ∃ diagnostic code fault, twoFaults.fold.firstError? = some diagnostic ∧
        (Stmt.expression twoFaults).lower = .ok code ∧ code.execute = .error fault ∧
        fault.report.origin = .runtime ∧ fault.report.message = diagnostic.complaint.text ∧
        diagnostic.complaint.text = "There is no implementation of minus operator for String" := by
  have plain : twoFaults.Plain := by
    simp [twoFaults, Expr.Plain, Expr.IsComparison, BinaryOp.isPlain, BinaryOp.isComparison]
  have found : twoFaults.fold.firstError? =
      some ⟨.binaryFault .undefinedForString .minus .string .integer, .endOfInput⟩ := rfl
  have stuck : ∀ span v, twoFaults.fold ≠ .value span v := by
    intro span v folded
    rw [folded] at found
    cases found
  obtain ⟨diagnostic, code, fault, failing, lowered, executed, origin, message⟩ :=
    Expr.firstError?_fold_of_plain plain stuck
  rw [found] at failing
  cases failing
  exact ⟨plain, stuck, _, code, fault, found, lowered, executed, origin, message, by decide +kernel⟩

end Reckon
