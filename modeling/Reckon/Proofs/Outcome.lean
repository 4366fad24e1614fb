/-
Module: Reckon.Proofs.Outcome
Purpose: What a program comes to. The statements that reading keeps are the folds of the expressions
  that it reads, one after another; they are literals, so a program has their values, and the only
  failure of a program is a refusal of its text.
Main exports: evaluate_ok_or_refused
-/
import Reckon.Proofs.Progress

namespace Reckon

open Grammar

/-- A program without a complaint is compiled to a row of constants, and its values are those of its
statements. -/
theorem compile_of_complete {source : String} (lexical : (scan source).complaint? = none)
    (complete : (parse (scan source).tokens).complaint? = none) :
    ∃ code values, compile source = .ok code ∧ evaluate source = .ok values ∧
      code.instrs.length = (parse (scan source).tokens).statements.length ∧
      (∀ instr ∈ code.instrs, ∃ index, instr = .constant index) ∧
      (parse (scan source).tokens).statements.map Expr.literal? = values.map some := by
  have kept : ∀ e ∈ (parse (scan source).tokens).statements, e.IsNarrowLiteral :=
    fun e member => isNarrowLiteral_of_mem_statements member
  obtain ⟨code, values, lowered, executed, lengthEq, constants, listed⟩ := Stmt.lower_literals kept
  have compiled : compile source = .ok code := by
    simp only [compile, lexical, complete, Parsed.block, lowered, mapError_ok]
  refine ⟨code, values, compiled, ?_, lengthEq, constants, listed⟩
  simp only [evaluate, compiled, executed, ok_bind, mapError_ok]

/-- Whatever the tokens are, the block that reading returns holds the folds of the expressions read,
all of them narrowed literals, and at most one diagnostic comes with it. So evaluating a program
gives its values or refuses it: no program fails in its run or in being lowered. A program that is
not refused is read up to its end. Its code has one instruction for each statement, which pushes a
constant, and the values are those that the statements were folded to, in their order. -/
theorem evaluate_ok_or_refused :
    (∀ tokens, (∃ body, (parse tokens).block = .block body ∧
        ∀ s ∈ body, ∃ span v, s = .expression (.value span v) ∧ v.narrow = v) ∧
      (parse tokens).complaint?.toList.length ≤ 1 ∧ ∃ left, Course tokens (parse tokens) left) ∧
    ∀ source, (∃ diagnostic, evaluate source = .error (.refused diagnostic)) ∨
      ∃ code values, compile source = .ok code ∧ evaluate source = .ok values ∧
        (∃ left, Course (scan source).tokens (parse (scan source).tokens) left ∧
          atEnd left = true) ∧
        code.instrs.length = (parse (scan source).tokens).statements.length ∧
        (∀ instr ∈ code.instrs, ∃ index, instr = .constant index) ∧
        (parse (scan source).tokens).statements.map Expr.literal? = values.map some := by
  constructor
  · intro tokens
    refine ⟨⟨_, rfl, ?_⟩, ?_, exists_course tokens⟩
    · intro s member
      obtain ⟨e, exprMember, rfl⟩ := List.mem_map.mp member
      obtain ⟨span, v, rfl, narrowed⟩ := isNarrowLiteral_of_mem_statements exprMember
      exact ⟨span, v, rfl, narrowed⟩
    · cases (parse tokens).complaint? <;> simp
  · intro source
    cases complaint : (scan source).complaint?.or (parse (scan source).tokens).complaint? with
    | some diagnostic =>
        left
        exact ⟨diagnostic, by rw [evaluate_eq_outcome, Parsed.outcome, complaint]⟩
    | none =>
        right
        obtain ⟨lexical, complete⟩ := Option.or_eq_none_iff.mp complaint
        obtain ⟨code, values, compiled, evaluated, lengthEq, constants, listed⟩ :=
          compile_of_complete lexical complete
        obtain ⟨rest, course⟩ := exists_course (scan source).tokens
        exact ⟨code, values, compiled, evaluated, ⟨rest, course, (course.again complete).1⟩,
          lengthEq, constants, listed⟩

/-- A program of two statements has two values; where a third subtracts from a string, the program
is refused. -/
theorem evaluate_ok_or_refused_brokenThird :
    (∃ code, compile "1 + 2; 7 // 2.0" = .ok code ∧
      evaluate "1 + 2; 7 // 2.0" = .ok [.integer 3, .integer 3] ∧ code.instrs.length = 2 ∧
      ∀ instr ∈ code.instrs, ∃ index, instr = .constant index) ∧
    ∃ diagnostic, evaluate "1 + 2; 7 // 2.0; 'a' - 3" = .error (.refused diagnostic) := by
  have values : evaluate "1 + 2; 7 // 2.0" = .ok [.integer 3, .integer 3] := by decide +kernel
  have refused : (evaluate "1 + 2; 7 // 2.0; 'a' - 3").isOk = false := by decide +kernel
  constructor
  · rcases evaluate_ok_or_refused.2 "1 + 2; 7 // 2.0" with
      ⟨diagnostic, failed⟩ | ⟨code, found, compiled, evaluated, _, lengthEq, constants, listed⟩
    · cases values.symm.trans failed
    · cases values.symm.trans evaluated
      refine ⟨code, compiled, values, ?_, constants⟩
      rw [lengthEq, ← List.length_map (f := Expr.literal?), listed]
      rfl
  · rcases evaluate_ok_or_refused.2 "1 + 2; 7 // 2.0; 'a' - 3" with
      found | ⟨_, found, _, evaluated, _⟩
    · exact found
    · rw [evaluated] at refused
      cases refused

end Reckon
