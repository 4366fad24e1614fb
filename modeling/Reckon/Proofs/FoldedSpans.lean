/-
Module: Reckon.Proofs.FoldedSpans
Purpose: Folding keeps places. A tree of literals, signs and binary operators covers the same text
  before and after folding, whether it becomes a literal or an error or is rebuilt. An error that
  folding raises in such a tree covers the text of an operator whose operands fold to literals.
Main exports: Expr.Unbranched, Expr.Unbranched.span_fold, Expr.FailsOnLiterals,
  Expr.Unbranched.exists_part_of_firstError?, Expr.fold_keeps_span
-/
import Reckon.Proofs.NormalForm

namespace Reckon.Expr

variable {e : Expr} {diagnostic : Diagnostic}

/-- Whether a node may leave out one of its operands. -/
def isBranching : Expr → Bool
  | .coalesce _ _ | .conditional _ _ _ | .guarded _ _ => true
  | _ => false

/-- Whether a node applies an operator to its operands. -/
def isOperation : Expr → Bool
  | .unary _ _ _ | .binary _ _ _ _ => true
  | _ => false

/-- No part of the tree branches. -/
def Unbranched (e : Expr) : Prop :=
  ∀ part : Expr, part.Part e → part.isBranching = false

/-- The children of a tree without branches have none. -/
theorem Unbranched.child {child : Expr} (unbranched : e.Unbranched) (member : child ∈ e.children) :
    child.Unbranched := by
  intro part inside
  exact unbranched part (.under member inside)

/-- No part of a tree without branches has one. -/
theorem Unbranched.part {part : Expr} (unbranched : e.Unbranched) (inside : part.Part e) :
    part.Unbranched := by
  induction inside with
  | whole => exact unbranched
  | under member _ inChild => exact inChild (unbranched.child member)

/-! ### Folded nodes cover the text of their operands -/

/-- A folded sign covers the sign and its operand. -/
theorem span_foldUnary (op : UnaryOp) (opSpan : Span) (operand : Expr) :
    (foldUnary op opSpan operand).span = opSpan.extendBack operand.span := by
  unfold foldUnary
  split
  · split <;> rfl
  · rfl

/-- The result of two literals has the span it is given, also if it is an error. -/
theorem span_foldLiterals (family : Family) (op : BinaryOp) (span : Span) (left right : Value) :
    (foldLiterals family op span left right).span = span := by
  unfold foldLiterals
  split
  · rfl
  · split <;> rfl

/-- A folded operation covers both operands. -/
theorem span_foldBinary (family : Family) (op : BinaryOp) (left right : Expr) :
    (foldBinary family op left right).span = left.span.join right.span := by
  unfold foldBinary
  split
  · exact span_foldLiterals family op _ _ _
  · rfl

/-- A tree that does not branch covers the same text when it is folded. -/
theorem Unbranched.span_fold (unbranched : e.Unbranched) : e.fold.span = e.span := by
  induction e with
  | value span v => rfl
  | unary op opSpan operand inOperand =>
      have operandEq := inOperand (unbranched.child (by simp [children]))
      rw [fold, span_foldUnary, operandEq, span]
  | binary family op left right inLeft inRight =>
      have leftEq := inLeft (unbranched.child (by simp [children]))
      have rightEq := inRight (unbranched.child (by simp [children]))
      rw [fold, span_foldBinary, leftEq, rightEq, span]
  | coalesce => cases unbranched _ (.whole _)
  | conditional => cases unbranched _ (.whole _)
  | guarded => cases unbranched _ (.whole _)
  | error diagnostic => rfl

/-! ### Where errors come from -/

/-- The tree applies an operator to operands that fold to literals, and for them it folds to an
error. -/
structure FailsOnLiterals (e : Expr) (diagnostic : Diagnostic) : Prop where
  operation : e.isOperation = true
  literals : ∀ child ∈ e.children, ∃ span v, child.fold = .value span v
  raised : e.fold = .error diagnostic

/-- An operator over literals folds to a literal or to an error, so its first error is the tree
itself. -/
theorem foldUnary_eq_error {op : UnaryOp} {opSpan span : Span} {v : Value}
    (found : (foldUnary op opSpan (.value span v)).firstError? = some diagnostic) :
    foldUnary op opSpan (.value span v) = .error diagnostic := by
  simp only [foldUnary] at found ⊢
  split at found
  · cases found
  · cases found
    rfl

/-- Two literals that give an error are replaced by it as a whole. -/
theorem foldLiterals_eq_error {family : Family} {op : BinaryOp} {span : Span} {left right : Value}
    (found : (foldLiterals family op span left right).firstError? = some diagnostic) :
    foldLiterals family op span left right = .error diagnostic := by
  simp only [foldLiterals] at found ⊢
  split at found
  · cases found
    rfl
  · split at found
    · cases found
    · cases found
      rfl

/-- The first error of a folded node is raised by the node, or it is the first error of a folded
operand. -/
theorem failsOnLiterals_or_child (single : e.isBranching = false) (noError : ∀ own, e ≠ .error own)
    (found : e.fold.firstError? = some diagnostic) :
    e.FailsOnLiterals diagnostic ∨
      ∃ child ∈ e.children, child.fold.firstError? = some diagnostic := by
  cases e with
  | value span v => cases found
  | unary op opSpan operand =>
      cases literal : operand.fold.isLiteral with
      | false =>
          rw [fold, foldUnary_of_undecided op opSpan literal] at found
          exact .inr ⟨operand, List.mem_singleton_self operand, found⟩
      | true =>
          obtain ⟨span, v, operandEq⟩ := exists_value_of_isLiteral literal
          rw [fold, operandEq] at found
          refine .inl ⟨rfl, List.forall_mem_singleton.mpr ⟨span, v, operandEq⟩, ?_⟩
          rw [fold, operandEq]
          exact foldUnary_eq_error found
  | binary family op left right =>
      by_cases undecided : left.fold.isLiteral = false ∨ right.fold.isLiteral = false
      · rw [fold, foldBinary_of_undecided family op undecided, firstError?,
          Option.or_eq_some_iff] at found
        right
        rcases found with found | ⟨_, found⟩
        · exact ⟨left, by simp [children], found⟩
        · exact ⟨right, by simp [children], found⟩
      · rw [not_or, Bool.not_eq_false, Bool.not_eq_false] at undecided
        obtain ⟨leftSpan, l, leftEq⟩ := exists_value_of_isLiteral undecided.1
        obtain ⟨rightSpan, r, rightEq⟩ := exists_value_of_isLiteral undecided.2
        rw [fold, leftEq, rightEq] at found
        refine .inl ⟨rfl, by simp [children, leftEq, rightEq], ?_⟩
        rw [fold, leftEq, rightEq]
        exact foldLiterals_eq_error found
  | coalesce | conditional | guarded => cases single
  | error own => exact absurd rfl (noError own)

/-- The first error of a folded tree that had none is raised by one of its operators. -/
theorem Unbranched.exists_part_of_firstError? (unbranched : e.Unbranched)
    (errorless : ∀ own, ¬ (Expr.error own).Part e) (found : e.fold.firstError? = some diagnostic) :
    ∃ part : Expr, part.Part e ∧ part.FailsOnLiterals diagnostic := by
  induction e using children_induction with
  | node e inChildren =>
      have noError : ∀ own, e ≠ .error own := by
        rintro own rfl
        exact errorless own (.whole _)
      rcases failsOnLiterals_or_child (unbranched e (.whole e)) noError found with
        fails | ⟨child, member, found⟩
      · exact ⟨e, .whole e, fails⟩
      · obtain ⟨part, inside, fails⟩ := inChildren child member (unbranched.child member)
          (fun own inside => errorless own (.under member inside)) found
        exact ⟨part, .under member inside, fails⟩

/-- Folding keeps the place of a tree that does not branch, whatever it folds to. If there was no
error in the tree, the first error of the folded tree covers the text of a sign or a binary operator
of it whose operands all fold to literals; it is what this operator folds to. -/
theorem fold_keeps_span (unbranched : e.Unbranched) :
    e.fold.span = e.span ∧
      ((∀ own, ¬ (Expr.error own).Part e) → ∀ diagnostic, e.fold.firstError? = some diagnostic →
        ∃ part : Expr, part.Part e ∧ part.FailsOnLiterals diagnostic ∧
          diagnostic.span = part.span) := by
  refine ⟨unbranched.span_fold, ?_⟩
  intro errorless diagnostic found
  obtain ⟨part, inside, fails⟩ := unbranched.exists_part_of_firstError? errorless found
  refine ⟨part, inside, fails, ?_⟩
  calc diagnostic.span = part.fold.span := by rw [fails.raised, span]
    _ = part.span := (unbranched.part inside).span_fold

/-- The tree of `-2 * ('a' - 3)`. -/
def signedFactor : Expr :=
  .binary .multiplicative .times
    (.unary .minus ⟨0, 0, 1, 1⟩ (.value ⟨1, 2, 1, 2⟩ (.integer 2))) faultySample

/-- The product is rebuilt around the literal `-2`, which begins at the sign but keeps the line and
column of its digit, and around the error of the difference. -/
theorem fold_keeps_span_signedFactor :
    signedFactor.Unbranched ∧ signedFactor.fold.span = ⟨0, 16, 1, 2⟩ ∧
      signedFactor.fold.firstError? =
        some ⟨.binaryFault .undefinedForString .minus .string .integer, ⟨9, 16, 1, 10⟩⟩ ∧
      ∃ part : Expr, part.Part signedFactor ∧
        part.FailsOnLiterals
          ⟨.binaryFault .undefinedForString .minus .string .integer, ⟨9, 16, 1, 10⟩⟩ ∧
        part.span = ⟨9, 16, 1, 10⟩ := by
  have unbranched : signedFactor.Unbranched := by
    intro part inside
    have all : ∀ part ∈ signedFactor.parts, part.isBranching = false := by decide
    exact all part inside.mem_parts
  have errorless : ∀ own, ¬ (Expr.error own).Part signedFactor := by
    intro own inside
    have listed := inside.mem_parts
    simp [signedFactor, faultySample, parts] at listed
  have found : signedFactor.fold.firstError? =
      some ⟨.binaryFault .undefinedForString .minus .string .integer, ⟨9, 16, 1, 10⟩⟩ := by
        decide +kernel
  obtain ⟨kept, raises⟩ := fold_keeps_span unbranched
  obtain ⟨part, inside, fails, spanEq⟩ := raises errorless _ found
  exact ⟨unbranched, kept, found, part, inside, fails, spanEq.symm⟩

end Reckon.Expr
