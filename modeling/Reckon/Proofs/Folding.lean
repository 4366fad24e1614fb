/-
Module: Reckon.Proofs.Folding
Purpose: What folding does to a tree. A tree that folds to a literal evaluates to it, whatever
  stands in the branches that folding drops; the literal is narrowed. A folded tree is one literal
  or holds an error node. For each kind of node an inversion says from which operands a literal can
  come.
Main exports: Value.narrow_narrow, Expr.foldUnary_eq_value and its companions, Expr.narrow_of_fold,
  Expr.eval_of_fold, Expr.firstError?_foldUnary and its companions, Expr.settled_fold,
  Expr.exists_value_of_firstError?
-/
import Reckon.Proofs.Evaluation

namespace Reckon

/-! ### Narrowed values -/

namespace Value

section AnyFloats

variable {F : Type} [Floats F]

@[simp] theorem narrow_narrow (v : Value F) : v.narrow.narrow = v.narrow := by
  cases v with
  | float x =>
      cases whole : Floats.integer? x with
      | none => simp only [narrow, whole]
      | some n => simp only [narrow, whole]
  | integer n => rfl
  | bool b => rfl
  | string s => rfl
  | null => rfl

/-- What an operator gives is narrowed. -/
theorem narrow_of_binary {op : BinaryOp} {left right v : Value F}
    (applied : binary op left right = .ok v) : v.narrow = v := by
  unfold binary at applied
  cases ruled : rule op left right with
  | error fault =>
      rw [ruled] at applied
      cases applied
  | ok result =>
      rw [ruled] at applied
      cases applied
      exact narrow_narrow result

/-- What a sign gives is narrowed. -/
theorem narrow_of_unary {op : UnaryOp} {operand v : Value F} (applied : unary op operand = .ok v) :
    v.narrow = v := by
  cases operand with
  | integer n =>
      cases op with
      | plus =>
          cases applied
          rfl
      | minus =>
          simp only [unary, exact] at applied
          split at applied
          · cases applied
            rfl
          · cases applied
  | float x => cases op <;> cases applied <;> exact narrow_narrow _
  | bool b => cases op <;> cases applied
  | string s => cases op <;> cases applied
  | null => cases op <;> cases applied

end AnyFloats

/-- Only null equals null. -/
theorem equals_null {v : Value} : v.equals .null = true ↔ v = .null := by
  constructor
  · intro equal
    cases v with
    | null => rfl
    | _ => cases equal
  · rintro rfl
    rfl

/-- A logical operator is defined on truth values only. -/
theorem exists_bools_of_logical {f : Bool → Bool → Bool} {left right v : Value}
    (applied : (logical f left right).map narrow = .ok v) :
    ∃ a b, left = .bool a ∧ right = .bool b := by
  cases left <;> cases right <;> cases applied
  exact ⟨_, _, rfl, rfl⟩

/-- A bitwise operator is defined on integers only. -/
theorem exists_integers_of_bitwise {f : Int64 → Int64 → Int64} {left right v : Value}
    (applied : (bitwise f left right).map narrow = .ok v) :
    ∃ a b, left = .integer a ∧ right = .integer b := by
  cases left <;> cases right <;> cases applied
  exact ⟨_, _, rfl, rfl⟩

/-- Where an operator can be applied to two operands, evaluation applies it to them, or another that
does the same there. -/
theorem binary_applied_of_ok {op : BinaryOp} {left right v : Value}
    (applied : binary op left right = .ok v) :
    binary (op.applied left right) left right = .ok v := by
  cases op with
  | bitAnd | bitOr | bitXor =>
      obtain ⟨a, b, rfl, rfl⟩ := exists_integers_of_bitwise applied
      exact applied
  | andAnd | orOr | andWord | xorWord =>
      obtain ⟨a, b, rfl, rfl⟩ := exists_bools_of_logical applied
      exact applied
  | _ =>
      -- All other operators are applied as they are.
      cases left <;> cases right <;> exact applied

end Value

/-! ### From which operands a literal comes -/

namespace Expr

/-- Whether a tree is one literal. -/
def isLiteral {F : Type} : Expr F → Bool
  | .value _ _ => true
  | _ => false

theorem exists_value_of_isLiteral {F : Type} {e : Expr F} (literal : e.isLiteral = true) :
    ∃ span v, e = .value span v := by
  cases e with
  | value span v => exact ⟨span, v, rfl⟩
  | _ => cases literal

variable {span : Span} {v : Value}

/-- A sign folds to a literal before a literal on which it is defined. -/
theorem foldUnary_eq_value {op : UnaryOp} {opSpan : Span} {operand : Expr}
    (folded : foldUnary op opSpan operand = .value span v) :
    ∃ operandSpan w, operand = .value operandSpan w ∧ Value.unary op w = .ok v := by
  cases operand with
  | value operandSpan w =>
      simp only [foldUnary] at folded
      split at folded
      · next result applied =>
          cases folded
          exact ⟨_, w, rfl, applied⟩
      · cases folded
  | _ => cases folded

/-- Two literals fold to one if their operator is defined on them and compares no identity. -/
theorem foldLiterals_eq_value {family : Family} {op : BinaryOp} {place : Span}
    {left right : Value} (folded : foldLiterals family op place left right = .value span v) :
    identityComplaint? family op left.kind = none ∧ Value.binary op left right = .ok v := by
  simp only [foldLiterals] at folded
  split at folded
  · cases folded
  · next plain =>
      split at folded
      · next result applied =>
          cases folded
          exact ⟨plain, applied⟩
      · cases folded

/-- An operation folds to a literal between two literals only. -/
theorem foldBinary_eq_value {family : Family} {op : BinaryOp} {left right : Expr}
    (folded : foldBinary family op left right = .value span v) :
    ∃ leftSpan l rightSpan r, left = .value leftSpan l ∧ right = .value rightSpan r ∧
      foldLiterals family op (leftSpan.join rightSpan) l r = .value span v := by
  cases left with
  | value leftSpan l =>
      cases right with
      | value rightSpan r => exact ⟨_, l, _, r, rfl, rfl, folded⟩
      | _ => cases folded
  | _ => cases folded

/-- Coalescing folds to the right literal behind null, and to the left one otherwise. -/
theorem foldCoalesce_eq_value {left right : Expr}
    (folded : foldCoalesce left right = .value span v) :
    (∃ leftSpan, left = .value leftSpan .null ∧ right = .value span v) ∨
      left = .value span v ∧ v ≠ .null := by
  cases left with
  | value leftSpan l =>
      cases l with
      | null => exact Or.inl ⟨leftSpan, rfl, folded⟩
      | _ =>
          cases folded
          exact Or.inr ⟨rfl, by simp⟩
  | _ => cases folded

/-- A condition that decides is a boolean literal. -/
theorem verdict_cases (cond : Expr) :
    (∃ condSpan, cond = .value condSpan (.bool true) ∧ cond.verdict = .holds) ∨
      (∃ condSpan, cond = .value condSpan (.bool false) ∧ cond.verdict = .fails) ∨
      (∃ diagnostic, cond.verdict = .invalid diagnostic) ∨
      cond.verdict = .unknown ∧ ∀ condSpan w, cond ≠ .value condSpan w := by
  cases cond with
  | value condSpan w =>
      cases w with
      | bool b =>
          cases b with
          | true => exact Or.inl ⟨condSpan, rfl, rfl⟩
          | false => exact Or.inr (Or.inl ⟨condSpan, rfl, rfl⟩)
      | _ => exact Or.inr (Or.inr (Or.inl ⟨_, rfl⟩))
  | _ => exact Or.inr (Or.inr (Or.inr ⟨rfl, by simp⟩))

/-- A conditional folds to the literal of the branch that its condition chooses. -/
theorem foldConditional_eq_value {cond ifTrue ifFalse : Expr}
    (folded : foldConditional cond ifTrue ifFalse = .value span v) :
    (∃ condSpan, cond = .value condSpan (.bool true) ∧ ifTrue = .value span v) ∨
      ∃ condSpan, cond = .value condSpan (.bool false) ∧ ifFalse = .value span v := by
  unfold foldConditional at folded
  rcases verdict_cases cond with
    ⟨condSpan, condEq, decided⟩ | ⟨condSpan, condEq, decided⟩ | ⟨diagnostic, decided⟩ |
      ⟨decided, _⟩
  · rw [decided] at folded
    exact Or.inl ⟨condSpan, condEq, folded⟩
  · rw [decided] at folded
    exact Or.inr ⟨condSpan, condEq, folded⟩
  · rw [decided] at folded
    cases folded
  · rw [decided] at folded
    cases folded

/-- A conditional without an alternative folds to its branch, or to null. -/
theorem foldGuarded_eq_value {cond ifTrue : Expr}
    (folded : foldGuarded cond ifTrue = .value span v) :
    (∃ condSpan, cond = .value condSpan (.bool true) ∧ ifTrue = .value span v) ∨
      (∃ condSpan, cond = .value condSpan (.bool false)) ∧ v = .null := by
  unfold foldGuarded at folded
  rcases verdict_cases cond with
    ⟨condSpan, condEq, decided⟩ | ⟨condSpan, condEq, decided⟩ | ⟨diagnostic, decided⟩ |
      ⟨decided, _⟩
  · rw [decided] at folded
    exact Or.inl ⟨condSpan, condEq, folded⟩
  · rw [decided] at folded
    cases folded
    exact Or.inr ⟨⟨condSpan, condEq⟩, rfl⟩
  · rw [decided] at folded
    cases folded
  · rw [decided] at folded
    cases folded

/-! ### Trees that fold to a literal -/

/-- The literals that folding makes are narrowed. -/
theorem narrow_of_fold {e : Expr} (folded : e.fold = .value span v) : v.narrow = v := by
  induction e generalizing span v with
  | value place w =>
      cases folded
      exact Value.narrow_narrow w
  | unary op opSpan operand operandNarrow =>
      obtain ⟨_, w, _, applied⟩ := foldUnary_eq_value folded
      exact Value.narrow_of_unary applied
  | binary family op left right leftNarrow rightNarrow =>
      obtain ⟨_, l, _, r, _, _, literals⟩ := foldBinary_eq_value folded
      exact Value.narrow_of_binary (foldLiterals_eq_value literals).2
  | coalesce left right leftNarrow rightNarrow =>
      rcases foldCoalesce_eq_value folded with ⟨_, _, rightEq⟩ | ⟨leftEq, _⟩
      · exact rightNarrow rightEq
      · exact leftNarrow leftEq
  | conditional cond ifTrue ifFalse condNarrow trueNarrow falseNarrow =>
      rcases foldConditional_eq_value folded with ⟨_, _, trueEq⟩ | ⟨_, _, falseEq⟩
      · exact trueNarrow trueEq
      · exact falseNarrow falseEq
  | guarded cond ifTrue condNarrow trueNarrow =>
      rcases foldGuarded_eq_value folded with ⟨_, _, trueEq⟩ | ⟨_, rfl⟩
      · exact trueNarrow trueEq
      · rfl
  | error diagnostic => cases folded

/-- A tree that folds to a literal evaluates to it. -/
theorem eval_of_fold {e : Expr} (folded : e.fold = .value span v) : e.eval = .ok v := by
  induction e generalizing span v with
  | value place w =>
      cases folded
      rfl
  | unary op opSpan operand operandEval =>
      obtain ⟨operandSpan, w, operandEq, applied⟩ := foldUnary_eq_value folded
      have operandValue := operandEval operandEq
      cases op with
      | plus =>
          -- The sign narrows its operand, which is narrowed already.
          have narrowed := narrow_of_fold operandEq
          have kept : v = w := by
            cases w <;> cases applied
            · rfl
            · exact narrowed
          rw [eval, operandValue, kept]
      | minus =>
          rw [eval, operandValue]
          simp only [ok_bind, Value.evalNegate, applied, mapError_ok]
  | binary family op left right leftEval rightEval =>
      obtain ⟨leftSpan, l, rightSpan, r, leftEq, rightEq, literals⟩ := foldBinary_eq_value folded
      have applied := Value.binary_applied_of_ok (foldLiterals_eq_value literals).2
      rw [eval, leftEval leftEq, rightEval rightEq]
      simp only [ok_bind, Value.evalBinary, applied, mapError_ok]
  | coalesce left right leftEval rightEval =>
      rcases foldCoalesce_eq_value folded with ⟨leftSpan, leftEq, rightEq⟩ | ⟨leftEq, notNull⟩
      · rw [eval, leftEval leftEq, ok_bind, if_pos (Value.equals_null.mpr rfl)]
        exact rightEval rightEq
      · rw [eval, leftEval leftEq, ok_bind, if_neg (mt Value.equals_null.mp notNull)]
  | conditional cond ifTrue ifFalse condEval trueEval falseEval =>
      rcases foldConditional_eq_value folded with ⟨_, condEq, trueEq⟩ | ⟨_, condEq, falseEq⟩
      · rw [eval, condEval condEq]
        exact trueEval trueEq
      · rw [eval, condEval condEq]
        exact falseEval falseEq
  | guarded cond ifTrue condEval trueEval =>
      rcases foldGuarded_eq_value folded with ⟨_, condEq, trueEq⟩ | ⟨⟨_, condEq⟩, rfl⟩
      · rw [eval, condEval condEq]
        exact trueEval trueEq
      · rw [eval, condEval condEq]
        rfl
  | error diagnostic => cases folded

/-! ### What folding does to the first error

A node is rebuilt around an operand that holds an error, and where this operand comes first, so does
its error. -/

section FirstError

variable {diagnostic : Diagnostic}

/-- The first error of an operand stays behind its sign. -/
theorem firstError?_foldUnary (op : UnaryOp) (opSpan : Span) {operand : Expr}
    (failing : operand.firstError? = some diagnostic) :
    (foldUnary op opSpan operand).firstError? = some diagnostic := by
  cases operand with
  | value span v => cases failing
  | _ => exact failing

/-- The first error of the left operand comes before everything in the right one. -/
theorem firstError?_foldBinary_left (family : Family) (op : BinaryOp) {left : Expr} (right : Expr)
    (failing : left.firstError? = some diagnostic) :
    (foldBinary family op left right).firstError? = some diagnostic := by
  have rebuilt : foldBinary family op left right = .binary family op left right := by
    cases left with
    | value leftSpan l => cases failing
    | _ => rfl
  rw [rebuilt, firstError?, failing, Option.some_or]

/-- The first error of the right operand stays behind a literal. -/
theorem firstError?_foldBinary_right (family : Family) (op : BinaryOp) (leftSpan : Span) (l : Value)
    {right : Expr} (failing : right.firstError? = some diagnostic) :
    (foldBinary family op (.value leftSpan l) right).firstError? = some diagnostic := by
  cases right with
  | value rightSpan r => cases failing
  | _ => exact failing

/-- The first error of the left side stays. -/
theorem firstError?_foldCoalesce {left : Expr} (right : Expr)
    (failing : left.firstError? = some diagnostic) :
    (foldCoalesce left right).firstError? = some diagnostic := by
  have rebuilt : foldCoalesce left right = .coalesce left right := by
    cases left with
    | value leftSpan l => cases failing
    | _ => rfl
  rw [rebuilt, firstError?, failing, Option.some_or]

/-- A condition that holds an error decides nothing. -/
theorem verdict_of_firstError? {cond : Expr} (failing : cond.firstError? = some diagnostic) :
    cond.verdict = .unknown := by
  cases cond with
  | value condSpan c => cases failing
  | _ => rfl

/-- The first error of a condition stays. -/
theorem firstError?_foldConditional {cond : Expr} (ifTrue ifFalse : Expr)
    (failing : cond.firstError? = some diagnostic) :
    (foldConditional cond ifTrue ifFalse).firstError? = some diagnostic := by
  simp only [foldConditional, verdict_of_firstError? failing, firstError?, failing, Option.some_or]

theorem firstError?_foldGuarded {cond : Expr} (ifTrue : Expr)
    (failing : cond.firstError? = some diagnostic) :
    (foldGuarded cond ifTrue).firstError? = some diagnostic := by
  simp only [foldGuarded, verdict_of_firstError? failing, firstError?, failing, Option.some_or]

end FirstError

/-! ### Folding never gets stuck -/

/-- A tree is settled if it is one literal or holds an error node. -/
def Settled (e : Expr) : Prop :=
  (∃ span v, e = .value span v) ∨ ∃ diagnostic, e.firstError? = some diagnostic

/-- A sign before what is settled gives something settled. -/
theorem settled_foldUnary (op : UnaryOp) (opSpan : Span) {operand : Expr}
    (settled : operand.Settled) : (foldUnary op opSpan operand).Settled := by
  rcases settled with ⟨span, v, rfl⟩ | ⟨diagnostic, failing⟩
  · simp only [foldUnary]
    split
    · exact Or.inl ⟨_, _, rfl⟩
    · exact Or.inr ⟨_, rfl⟩
  · exact Or.inr ⟨diagnostic, firstError?_foldUnary op opSpan failing⟩

/-- Two literals give a literal or an error. -/
theorem settled_foldLiterals (family : Family) (op : BinaryOp) (span : Span)
    (left right : Value) : (foldLiterals family op span left right).Settled := by
  simp only [foldLiterals]
  split
  · exact Or.inr ⟨_, rfl⟩
  · split
    · exact Or.inl ⟨_, _, rfl⟩
    · exact Or.inr ⟨_, rfl⟩

/-- An operation on what is settled gives something settled. -/
theorem settled_foldBinary (family : Family) (op : BinaryOp) {left right : Expr}
    (leftSettled : left.Settled) (rightSettled : right.Settled) :
    (foldBinary family op left right).Settled := by
  rcases leftSettled with ⟨leftSpan, l, rfl⟩ | ⟨diagnostic, failing⟩
  · rcases rightSettled with ⟨rightSpan, r, rfl⟩ | ⟨diagnostic, failing⟩
    · exact settled_foldLiterals family op _ l r
    · exact Or.inr ⟨diagnostic, firstError?_foldBinary_right family op leftSpan l failing⟩
  · exact Or.inr ⟨diagnostic, firstError?_foldBinary_left family op right failing⟩

theorem settled_foldCoalesce {left right : Expr} (leftSettled : left.Settled)
    (rightSettled : right.Settled) : (foldCoalesce left right).Settled := by
  rcases leftSettled with ⟨leftSpan, l, rfl⟩ | ⟨diagnostic, failing⟩
  · cases l with
    | null => exact rightSettled
    | _ => exact Or.inl ⟨_, _, rfl⟩
  · exact Or.inr ⟨diagnostic, firstError?_foldCoalesce right failing⟩

/-- A conditional of settled parts gives something settled, whatever its condition decides. -/
theorem settled_foldConditional {cond ifTrue ifFalse : Expr} (condSettled : cond.Settled)
    (trueSettled : ifTrue.Settled) (falseSettled : ifFalse.Settled) :
    (foldConditional cond ifTrue ifFalse).Settled := by
  unfold foldConditional
  rcases verdict_cases cond with
    ⟨_, _, decided⟩ | ⟨_, _, decided⟩ | ⟨diagnostic, decided⟩ | ⟨decided, noLiteral⟩
  · rw [decided]
    exact trueSettled
  · rw [decided]
    exact falseSettled
  · rw [decided]
    exact Or.inr ⟨diagnostic, rfl⟩
  · rcases condSettled with ⟨span, v, literal⟩ | ⟨diagnostic, failing⟩
    · exact absurd literal (noLiteral span v)
    · exact Or.inr ⟨diagnostic, firstError?_foldConditional ifTrue ifFalse failing⟩

theorem settled_foldGuarded {cond ifTrue : Expr} (condSettled : cond.Settled)
    (trueSettled : ifTrue.Settled) : (foldGuarded cond ifTrue).Settled := by
  unfold foldGuarded
  rcases verdict_cases cond with
    ⟨_, _, decided⟩ | ⟨_, _, decided⟩ | ⟨diagnostic, decided⟩ | ⟨decided, noLiteral⟩
  · rw [decided]
    exact trueSettled
  · rw [decided]
    exact Or.inl ⟨_, _, rfl⟩
  · rw [decided]
    exact Or.inr ⟨diagnostic, rfl⟩
  · rcases condSettled with ⟨span, v, literal⟩ | ⟨diagnostic, failing⟩
    · exact absurd literal (noLiteral span v)
    · exact Or.inr ⟨diagnostic, firstError?_foldGuarded ifTrue failing⟩

/-- Every folded tree is one literal or holds an error node. -/
theorem settled_fold (e : Expr) : e.fold.Settled := by
  induction e with
  | value span v => exact Or.inl ⟨span, v.narrow, rfl⟩
  | unary op opSpan operand settled => exact settled_foldUnary op opSpan settled
  | binary family op left right leftSettled rightSettled =>
      exact settled_foldBinary family op leftSettled rightSettled
  | coalesce left right leftSettled rightSettled =>
      exact settled_foldCoalesce leftSettled rightSettled
  | conditional cond ifTrue ifFalse condSettled trueSettled falseSettled =>
      exact settled_foldConditional condSettled trueSettled falseSettled
  | guarded cond ifTrue condSettled trueSettled =>
      exact settled_foldGuarded condSettled trueSettled
  | error diagnostic => exact Or.inr ⟨diagnostic, rfl⟩

/-- A folded tree without an error node is a narrowed literal. -/
theorem exists_value_of_firstError? {e : Expr} (faultless : e.fold.firstError? = none) :
    ∃ span v, e.fold = .value span v ∧ v.narrow = v := by
  rcases settled_fold e with ⟨span, v, folded⟩ | ⟨diagnostic, failing⟩
  · exact ⟨span, v, folded, narrow_of_fold folded⟩
  · rw [faultless] at failing
    cases failing

end Expr

end Reckon
