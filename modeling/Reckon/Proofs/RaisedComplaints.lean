/-
Module: Reckon.Proofs.RaisedComplaints
Purpose: Which complaints there are about a text. The scanner has two, about numbers and strings; a
  reader has those of its refusals; and folding has those about operands and conditions. A tree that
  was read has no error node, so every error node of a folded tree was put there by folding.
Main exports: Complaint.isFault, OnlyFault, Expr.RaisesFaults, Expr.raisesFaults_fold, Raised,
  raised_of_complaint
-/
import Reckon.Proofs.Refusal

namespace Reckon

/-! ### Complaints of folding -/

/-- Whether a complaint is about operands that an operator cannot be applied to, or about a
condition. -/
def Complaint.isFault : Complaint → Bool
  | .binaryFault _ _ _ _ | .unaryFault _ _ _ | .identityOfLiteral _ _ | .conditionNotBool _ => true
  | _ => false

/-- A diagnostic, if there is one, has a complaint of folding. -/
def OnlyFault (found : Option Diagnostic) : Prop :=
  ∀ diagnostic, found = some diagnostic → diagnostic.complaint.isFault = true

/-- The first of two options is a fault if both can only be faults. -/
theorem OnlyFault.or {first second : Option Diagnostic} (inFirst : OnlyFault first)
    (inSecond : OnlyFault second) : OnlyFault (first.or second) := by
  intro diagnostic found
  rcases Option.or_eq_some_iff.mp found with found | ⟨_, found⟩
  · exact inFirst diagnostic found
  · exact inSecond diagnostic found

namespace Expr

/-- The first error node of a tree, if there is one, has a complaint of folding. -/
def RaisesFaults (e : Expr) : Prop :=
  OnlyFault e.firstError?

variable {operand left right cond ifTrue ifFalse : Expr}

theorem raisesFaults_value (span : Span) (v : Value) : (Expr.value span v).RaisesFaults := by
  intro diagnostic found
  cases found

theorem raisesFaults_error {diagnostic : Diagnostic} (fault : diagnostic.complaint.isFault = true) :
    (Expr.error diagnostic).RaisesFaults := by
  intro _ found
  cases found
  exact fault

/-- Folding a sign adds no other complaint than a fault. -/
theorem raisesFaults_foldUnary (op : UnaryOp) (opSpan : Span) (inOperand : operand.RaisesFaults) :
    (foldUnary op opSpan operand).RaisesFaults := by
  unfold foldUnary
  split
  · split
    · exact raisesFaults_value _ _
    · exact raisesFaults_error rfl
  · exact inOperand

/-- Two literals fold to a literal or to a fault. -/
theorem raisesFaults_foldLiterals (family : Family) (op : BinaryOp) (span : Span) (l r : Value) :
    (foldLiterals family op span l r).RaisesFaults := by
  unfold foldLiterals
  split
  · next complaint identity =>
      apply raisesFaults_error
      unfold identityComplaint? at identity
      split at identity <;> cases identity <;> rfl
  · split
    · exact raisesFaults_value _ _
    · exact raisesFaults_error rfl

/-- Folding an operation adds no other complaint than a fault. -/
theorem raisesFaults_foldBinary (family : Family) (op : BinaryOp) (inLeft : left.RaisesFaults)
    (inRight : right.RaisesFaults) : (foldBinary family op left right).RaisesFaults := by
  unfold foldBinary
  split
  · exact raisesFaults_foldLiterals _ _ _ _ _
  · exact OnlyFault.or inLeft inRight

/-- Coalescing adds no complaint. -/
theorem raisesFaults_foldCoalesce (inLeft : left.RaisesFaults) (inRight : right.RaisesFaults) :
    (foldCoalesce left right).RaisesFaults := by
  unfold foldCoalesce
  split
  · exact inRight
  · exact inLeft
  · exact OnlyFault.or inLeft inRight

/-- A condition that is no truth value is a fault. -/
theorem isFault_of_verdict {diagnostic : Diagnostic}
    (decided : cond.verdict = .invalid diagnostic) : diagnostic.complaint.isFault = true := by
  unfold verdict at decided
  split at decided <;> cases decided
  rfl

/-- Folding a conditional adds no other complaint than this fault. -/
theorem raisesFaults_foldConditional (inCond : cond.RaisesFaults) (inTrue : ifTrue.RaisesFaults)
    (inFalse : ifFalse.RaisesFaults) : (foldConditional cond ifTrue ifFalse).RaisesFaults := by
  unfold foldConditional
  split
  · exact inTrue
  · exact inFalse
  · next decided => exact raisesFaults_error (isFault_of_verdict decided)
  · exact (OnlyFault.or inCond inTrue).or inFalse

/-- Folding a conditional without an alternative adds no other complaint either. -/
theorem raisesFaults_foldGuarded (inCond : cond.RaisesFaults) (inTrue : ifTrue.RaisesFaults) :
    (foldGuarded cond ifTrue).RaisesFaults := by
  unfold foldGuarded
  split
  · exact inTrue
  · exact raisesFaults_value _ _
  · next decided => exact raisesFaults_error (isFault_of_verdict decided)
  · exact OnlyFault.or inCond inTrue

/-- The error nodes that folding leaves in a tree that had none are its own. -/
theorem raisesFaults_fold {e : Expr} (own : e.OwnFamilies) : e.fold.RaisesFaults := by
  induction e with
  | value span v => exact raisesFaults_value span v.narrow
  | unary op opSpan operand inOperand => exact raisesFaults_foldUnary op opSpan (inOperand own)
  | binary family op left right inLeft inRight =>
      exact raisesFaults_foldBinary family op (inLeft own.2.1) (inRight own.2.2)
  | coalesce left right inLeft inRight =>
      exact raisesFaults_foldCoalesce (inLeft own.1) (inRight own.2)
  | conditional cond ifTrue ifFalse inCond inTrue inFalse =>
      exact raisesFaults_foldConditional (inCond own.1) (inTrue own.2.1) (inFalse own.2.2)
  | guarded cond ifTrue inCond inTrue =>
      exact raisesFaults_foldGuarded (inCond own.1) (inTrue own.2)
  | error diagnostic => exact own.elim

end Expr

/-! ### Complaints about a text -/

open Grammar

/-- The complaints that there may be about a text: those of the scanner, of the readers and of
folding. -/
inductive Raised (source : String) : Diagnostic → Prop where
  | number {span : Span} : Raised source ⟨.malformedNumber, span⟩
  | string {span : Span} : Raised source ⟨.unterminatedString, span⟩
  | refusal {diagnostic : Diagnostic} (refusal : Refusal (scan source).tokens diagnostic) :
      Raised source diagnostic
  | fault {diagnostic : Diagnostic} (isFault : diagnostic.complaint.isFault = true) :
      Raised source diagnostic

/-- The scanner complains about numbers and strings only. -/
theorem Cursor.Reads.complaint {c : Cursor} {scanned : Scanned} (reads : c.Reads scanned) :
    ∀ diagnostic ∈ scanned.complaint?,
      diagnostic.complaint = .malformedNumber ∨ diagnostic.complaint = .unterminatedString := by
  induction reads with
  | nothing _ =>
      intro diagnostic member
      cases member
  | malformed _ _ broken =>
      intro diagnostic member
      cases member
      cases broken with
      | number => exact .inl rfl
      | string => exact .inr rfl
  | token _ _ _ _ inductionHypothesis => exact inductionHypothesis

/-- Every complaint about a text is one of those that are raised. -/
theorem raised_of_complaint {source : String} {diagnostic : Diagnostic}
    (complained : diagnostic ∈ (scan source).complaint? ∨
      diagnostic ∈ (parse (scan source).tokens).complaint?) :
    Raised source diagnostic := by
  rcases complained with lexical | grammatical
  · obtain ⟨complaint, span⟩ := diagnostic
    rcases (Cursor.start source.toList).reads_tokens.complaint _ lexical with number | string
    · cases number
      exact .number
    · cases string
      exact .string
  · rcases complaint?_statements grammatical with refusal | ⟨e, _, _, derives, found⟩
    · exact .refusal refusal
    · exact .fault (Expr.raisesFaults_fold derives.ownFamilies diagnostic found)

end Reckon
