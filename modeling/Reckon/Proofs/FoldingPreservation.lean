/-
Module: Reckon.Proofs.FoldingPreservation
Purpose: Folding parts of a program does not change its run. Any parts that fold to a literal may be
  replaced by that literal, at any places and in any number: the program can still be lowered, and
  its code gives the same values, or fails with the same fault.
Main exports: Expr.PartlyFolded, Stmt.PartlyFolded, Stmt.execute_of_partlyFolded
-/
import Reckon.Proofs.CompilerCorrectness
import Reckon.Proofs.Folding
import Reckon.Proofs.Replacement

namespace Reckon

/-! ### Replacing parts by their literals -/

/-- The second tree is the first with some parts, each of which folds to a literal, replaced by that
literal. -/
abbrev Expr.PartlyFolded : Expr → Expr → Prop :=
  Expr.Replaced fun e e' => e.fold = e' ∧ e'.isLiteral = true

/-- The second statement is the first with some parts of its expressions replaced by their
literals. -/
abbrev Stmt.PartlyFolded : Stmt → Stmt → Prop :=
  Stmt.Replaced fun e e' => e.fold = e' ∧ e'.isLiteral = true

/-! ### What replacing keeps -/

namespace Expr

/-- Replacing parts keeps the value, and the fault if there is none. -/
theorem Replaced.eval_eq {e e' : Expr} (replaced : e.PartlyFolded e') : e'.eval = e.eval := by
  induction replaced with
  | part allowed =>
      obtain ⟨folded, literal⟩ := allowed
      obtain ⟨span, v, rfl⟩ := exists_value_of_isLiteral literal
      rw [eval_of_fold folded, eval, narrow_of_fold folded]
  | value span v => rfl
  | unary op opSpan inOperand operandEq => cases op <;> simp only [eval, operandEq]
  | binary family op inLeft inRight leftEq rightEq => simp only [eval, leftEq, rightEq]
  | coalesce inLeft inRight leftEq rightEq => simp only [eval, leftEq, rightEq]
  | conditional inCond inTrue inFalse condEq trueEq falseEq =>
      simp only [eval, condEq, trueEq, falseEq]
  | guarded inCond inTrue condEq trueEq => simp only [eval, condEq, trueEq]
  | error diagnostic => rfl

/-- Replacing parts brings in no obstacle. -/
theorem Replaced.obstacle?_eq_none {e e' : Expr} (replaced : e.PartlyFolded e')
    (clear : e.obstacle? = none) : e'.obstacle? = none := by
  induction replaced with
  | part allowed =>
      obtain ⟨span, v, rfl⟩ := exists_value_of_isLiteral allowed.2
      rfl
  | value span v => rfl
  | unary op opSpan inOperand operandClear => exact operandClear clear
  | binary family op inLeft inRight leftClear rightClear =>
      simp only [obstacle?, Option.or_eq_none_iff] at clear ⊢
      exact ⟨⟨leftClear clear.1.1, rightClear clear.1.2⟩, clear.2⟩
  | coalesce inLeft inRight leftClear rightClear =>
      simp only [obstacle?, Option.or_eq_none_iff] at clear ⊢
      exact ⟨leftClear clear.1, rightClear clear.2⟩
  | conditional inCond inTrue inFalse condClear trueClear falseClear =>
      simp only [obstacle?, Option.or_eq_none_iff] at clear ⊢
      exact ⟨⟨condClear clear.1.1, falseClear clear.1.2⟩, trueClear clear.2⟩
  | guarded inCond inTrue condClear trueClear =>
      simp only [obstacle?, Option.or_eq_none_iff] at clear ⊢
      exact ⟨condClear clear.1, trueClear clear.2⟩
  | error diagnostic => cases clear

end Expr

/-- A list of expressions evaluates to the same after parts of them are replaced. -/
theorem Expr.evalAll_of_partlyFolded {es es' : List Expr}
    (replaced : List.Forall₂ PartlyFolded es es') : evalAll es' = evalAll es := by
  induction replaced with
  | nil => rfl
  | cons inHead _ restEq => rw [evalAll, evalAll, inHead.eval_eq, restEq]

/-- Replacing parts of expressions that have no obstacle gives them none. -/
theorem Expr.clear_of_partlyFolded {es es' : List Expr}
    (replaced : List.Forall₂ PartlyFolded es es') (clear : ∀ e ∈ es, e.obstacle? = none) :
    ∀ e ∈ es', e.obstacle? = none := by
  induction replaced with
  | nil => exact clear
  | cons inHead _ restClear =>
      rw [List.forall_mem_cons] at clear ⊢
      exact ⟨inHead.obstacle?_eq_none clear.1, restClear clear.2⟩

namespace Stmt

/-- Where parts of a statement are replaced by the literals they fold to, the statement can still be
lowered and its code runs to the same values or the same fault. An expression that folds to a
literal as a whole runs to just that literal. -/
theorem execute_of_partlyFolded {s s' : Stmt} {code : Code} (lowered : s.lower = .ok code)
    (replaced : s.PartlyFolded s') :
    (∃ code', s'.lower = .ok code' ∧ code'.execute = code.execute) ∧
      ∀ e span v, s = .expression e → e.fold = .value span v → code.execute = .ok [v] := by
  have executed : code.execute = s.eval.mapError EvalFault.machineFault :=
    run_of_lower lowered (Nat.le_refl _)
  constructor
  · have clear := Expr.clear_of_partlyFolded replaced.expressions (lower_eq_ok.mp lowered).1
    have evalEq : s'.eval = s.eval := by
      rw [eval_eq_evalAll, eval_eq_evalAll, Expr.evalAll_of_partlyFolded replaced.expressions]
    have lowered' : s'.lower = .ok (.assemble (Expr.codeAll s'.expressions 0)) :=
      lower_eq_ok.mpr ⟨clear, rfl⟩
    refine ⟨_, lowered', ?_⟩
    rw [executed, ← evalEq]
    exact run_of_lower lowered' (Nat.le_refl _)
  · rintro e span v rfl folded
    rw [executed, eval, Expr.eval_of_fold folded]
    rfl

/-- A string less the given tree, behind a statement that succeeds. -/
def failingSample (subtrahend : Expr) : Stmt :=
  .block [.expression (.value .endOfInput .null),
    .expression (.binary .additive .minus (.value .endOfInput (.string "a")) subtrahend)]

/-- The tree of `2 * 3`. -/
def productSample : Expr :=
  .binary .multiplicative .times (.value .endOfInput (.integer 2)) (.value .endOfInput (.integer 3))

/-- The product may be replaced by its literal where the difference around it fails. -/
theorem execute_of_partlyFolded_failingSample :
    ∃ code code', (failingSample productSample).lower = .ok code ∧
      (failingSample (.value .endOfInput (.integer 6))).lower = .ok code' ∧
      code'.execute = code.execute ∧
      code.execute = .error (.binaryFault .undefinedForString .minus .string .integer) := by
  have folded : productSample.PartlyFolded (.value .endOfInput (.integer 6)) := .part ⟨rfl, rfl⟩
  have replaced : (failingSample productSample).PartlyFolded
      (failingSample (.value .endOfInput (.integer 6))) :=
    .block (.cons (.expression (.value _ _))
      (.cons (.expression (.binary _ _ (.value _ _) folded)) .nil))
  have lowered : (failingSample productSample).lower =
      .ok (.assemble (Expr.codeAll (failingSample productSample).expressions 0)) :=
    lower_eq _
  obtain ⟨⟨code', lowered', same⟩, _⟩ := execute_of_partlyFolded lowered replaced
  exact ⟨_, code', lowered, lowered', same, run_of_lower lowered (Nat.le_refl _)⟩

end Stmt

end Reckon
