/-
Module: Reckon.Proofs.FrontEnd
Purpose: Reading a program catches everything that could go wrong later. Every statement that
  reading keeps is a narrowed literal, so lowering meets no obstacle, the code is a row of
  constants, and its run cannot fail.
Main exports: Expr.IsNarrowLiteral, Grammar.isNarrowLiteral_of_mem_statements, Stmt.lower_literals
-/
import Reckon.Proofs.CompilerCorrectness
import Reckon.Proofs.Folding

namespace Reckon

/-! ### What reading keeps -/

/-- A narrowed literal. -/
def Expr.IsNarrowLiteral (e : Expr) : Prop :=
  ∃ span v, e = .value span v ∧ v.narrow = v

namespace Grammar

theorem statements_zero (tokens : List Token) : statements 0 tokens = ⟨[], .complete⟩ := by
  exact rfl

-- Not `statements` by its own equations: these unfold the expression reader to its full depth.
/-- A round of reading takes one statement, folds it, and stops at an error in it. -/
theorem statements_succ (rounds : Nat) (tokens : List Token) :
    statements (rounds + 1) tokens =
      if atEnd tokens then ⟨[], .complete⟩
      else
        match statement tokens with
        | .error diagnostic => ⟨[], .refused diagnostic⟩
        | .ok (e, rest) =>
          match e.fold.firstError? with
          | some diagnostic => ⟨[], .faulty e.fold diagnostic⟩
          | none =>
            ⟨e.fold :: (statements rounds rest).statements, (statements rounds rest).ending⟩ := by
  exact rfl

/-- Every statement that is kept is a narrowed literal: reading stops at a complaint, and what folds
without an error folds to a literal. -/
theorem isNarrowLiteral_of_mem_statements {rounds : Nat} {tokens : List Token} {e : Expr}
    (member : e ∈ (statements rounds tokens).statements) : e.IsNarrowLiteral := by
  induction rounds generalizing tokens with
  | zero =>
      rw [statements_zero] at member
      cases member
  | succ rounds inductionHypothesis =>
      rw [statements_succ] at member
      split at member
      · cases member
      · split at member
        · cases member
        · next read rest found =>
            split at member
            · cases member
            · next faultless =>
                rcases List.mem_cons.mp member with current | later
                · subst e
                  exact Expr.exists_value_of_firstError? faultless
                · exact inductionHypothesis later

end Grammar

/-! ### Code of literals -/

/-- The value of a literal. -/
def Expr.literal? : Expr → Option Value
  | .value _ v => some v
  | _ => none

theorem Stmt.expressionsOf_map_expression (exprs : List Expr) :
    expressionsOf (exprs.map .expression) = exprs := by
  induction exprs with
  | nil => rfl
  | cons e rest inductionHypothesis =>
      simp [expressionsOf, expressions, inductionHypothesis]

namespace Expr

variable {exprs : List Expr}

/-- Literals have no obstacle. -/
theorem obstacle?_of_literals (literals : ∀ e ∈ exprs, e.IsNarrowLiteral) :
    ∀ e ∈ exprs, e.obstacle? = none := by
  intro e member
  obtain ⟨span, v, rfl, _⟩ := literals e member
  rfl

/-- Narrowed literals are their own values. -/
theorem evalAll_of_literals (literals : ∀ e ∈ exprs, e.IsNarrowLiteral) :
    ∃ values, evalAll exprs = .ok values ∧ exprs.map literal? = values.map some := by
  induction exprs with
  | nil => exact ⟨[], rfl, rfl⟩
  | cons e rest inductionHypothesis =>
      obtain ⟨span, v, rfl, narrowed⟩ := literals e (by simp)
      obtain ⟨values, evaluated, listed⟩ :=
        inductionHypothesis fun other member => literals other (by simp [member])
      refine ⟨v :: values, ?_, ?_⟩
      · simp only [evalAll, eval, narrowed, evaluated, ok_bind]
      · simp [literal?, listed]

/-- The code of literals is one constant for each. -/
theorem codeAll_of_literals (literals : ∀ e ∈ exprs, e.IsNarrowLiteral) (next : Nat) :
    (codeAll exprs next).length = exprs.length ∧
      ∀ entry ∈ codeAll exprs next, ∃ v, entry.1 = .constant v := by
  induction exprs generalizing next with
  | nil => simp [codeAll]
  | cons e rest inductionHypothesis =>
      obtain ⟨span, v, rfl, _⟩ := literals e (by simp)
      obtain ⟨lengthEq, constants⟩ :=
        inductionHypothesis (fun other member => literals other (by simp [member])) next
      constructor
      · simp [codeAll, code, labelCount, lengthEq]
      · intro entry member
        simp only [codeAll, code, labelCount, List.singleton_append, List.mem_cons] at member
        rcases member with current | later
        · subst entry
          exact ⟨v, rfl⟩
        · exact constants entry later

end Expr

/-! ### Programs -/

/-- A block of narrowed literals is lowered to a row of constants, and its code runs to the
literals. -/
theorem Stmt.lower_literals {exprs : List Expr} (literals : ∀ e ∈ exprs, e.IsNarrowLiteral) :
    ∃ code values, (Stmt.block (exprs.map .expression)).lower = .ok code ∧
      code.execute = .ok values ∧ code.instrs.length = exprs.length ∧
      (∀ instr ∈ code.instrs, ∃ index, instr = .constant index) ∧
      exprs.map Expr.literal? = values.map some := by
  have flat : (Stmt.block (exprs.map .expression)).expressions = exprs :=
    expressionsOf_map_expression exprs
  have lowered : (Stmt.block (exprs.map .expression)).lower =
      .ok (.assemble (Expr.codeAll exprs 0)) := by
    rw [lower_eq_ok, flat]
    exact ⟨Expr.obstacle?_of_literals literals, rfl⟩
  obtain ⟨values, evaluated, listed⟩ := Expr.evalAll_of_literals literals
  obtain ⟨lengthEq, constants⟩ := Expr.codeAll_of_literals literals 0
  refine ⟨_, values, lowered, ?_, ?_, ?_, listed⟩
  · have executed := run_of_lower lowered (Nat.le_refl _)
    rw [eval_eq_evalAll, flat, evaluated] at executed
    exact executed
  · rw [Code.instrs_assemble, List.length_map, List.length_map, lengthEq]
  · intro instr member
    rw [Code.instrs_assemble, List.map_map, List.mem_map] at member
    obtain ⟨entry, entryMember, rfl⟩ := member
    obtain ⟨v, isConstant⟩ := constants entry entryMember
    exact ⟨_, by rw [Function.comp_apply, isConstant, Instr.map]⟩

end Reckon
