/-
Module: Reckon.Proofs.WellFormedCode
Purpose: Lowered code is well formed, and its runs go straight ahead. Each label of the code of a
  tree is jumped to as often as it is defined, which is once. Where all jumps go ahead, the indices
  of the instructions that a run executes increase, so there are no more of them than instructions,
  and a run under a limit executes as many of these as the limit allows.
Main exports: Code.WellFormed, Expr.count_jumps_code, Code.runFrom_eq_stepLimit,
  Code.take_visitedFrom, Code.Straight.increasing_visitedFrom, Stmt.lower_wellFormed
-/
import Reckon.Proofs.CompilerCorrectness

namespace Reckon

/-! ### Jumps and the labels they go to -/

/-- The ids of the labels that the jumps of a piece of code go to, in its order. -/
def jumpsOf (located : List (Instr Value × Span)) : List Nat :=
  (located.map Prod.fst).filterMap Instr.jump?

@[simp] theorem jumpsOf_nil : jumpsOf [] = [] :=
  rfl

@[simp] theorem jumpsOf_cons (entry : Instr Value × Span) (rest : List (Instr Value × Span)) :
    jumpsOf (entry :: rest) = entry.1.jump?.toList ++ jumpsOf rest := by
  cases jumpEq : entry.1.jump? <;> simp [jumpsOf, jumpEq]

@[simp] theorem jumpsOf_append (first second : List (Instr Value × Span)) :
    jumpsOf (first ++ second) = jumpsOf first ++ jumpsOf second := by
  simp [jumpsOf, List.filterMap_append]

namespace Expr

/-- The code of a tree jumps to each label as often as it defines it. -/
theorem count_jumps_code (e : Expr) (next id : Nat) :
    (jumpsOf (e.code next)).count id = (labelsOf (e.code next)).count id := by
  induction e generalizing next with
  | value span v => rfl
  | unary op opSpan operand operandCount =>
      cases op with
      | plus =>
          simp only [code, List.append_nil]
          exact operandCount next
      | minus =>
          simp only [code, jumpsOf_append, labelsOf_append, List.count_append, operandCount]
          rfl
  | binary family op left right leftCount rightCount =>
      simp only [code, jumpsOf_append, labelsOf_append, List.count_append, leftCount, rightCount]
      cases op.operation? <;> rfl
  | coalesce left right leftCount rightCount =>
      simp only [code, jumpsOf_append, jumpsOf_cons, jumpsOf_nil, labelsOf_append, labelsOf_cons,
        labelsOf_nil, Instr.jump?, Instr.label?, Option.toList_none, Option.toList_some,
        List.nil_append, List.append_nil, List.count_append, leftCount, rightCount]
      omega
  | conditional cond ifTrue ifFalse condCount trueCount falseCount =>
      simp only [code, jumpsOf_append, jumpsOf_cons, jumpsOf_nil, labelsOf_append, labelsOf_cons,
        labelsOf_nil, Instr.jump?, Instr.label?, Option.toList_none, Option.toList_some,
        List.nil_append, List.append_nil, List.count_append, condCount, trueCount, falseCount]
      omega
  | guarded cond ifTrue condCount trueCount =>
      simp only [code, jumpsOf_append, jumpsOf_cons, jumpsOf_nil, labelsOf_append, labelsOf_cons,
        labelsOf_nil, Instr.jump?, Instr.label?, Option.toList_none, Option.toList_some,
        List.nil_append, List.append_nil, List.count_append, condCount, trueCount]
      omega
  | error diagnostic => rfl

/-- In the code of expressions, a label is jumped to as often as it is defined. -/
theorem count_jumps_codeAll (exprs : List Expr) (next id : Nat) :
    (jumpsOf (codeAll exprs next)).count id = (labelsOf (codeAll exprs next)).count id := by
  induction exprs generalizing next with
  | nil => rfl
  | cons e rest inductionHypothesis =>
      simp only [codeAll, jumpsOf_append, labelsOf_append, List.count_append, count_jumps_code,
        inductionHypothesis]

end Expr

/-! ### Well-formed code -/

/-- Code whose labels, jumps and constants are in order. -/
structure Code.WellFormed (code : Code) : Prop where
  /-- An id that occurs at all is defined by one label. -/
  labelOnce : ∀ id, id ∈ code.instrs.filterMap Instr.label? ∨
    id ∈ code.instrs.filterMap Instr.jump? →
    (code.instrs.filterMap Instr.label?).count id = 1
  /-- And one jump goes to it. -/
  jumpOnce : ∀ id, id ∈ code.instrs.filterMap Instr.label? ∨
    id ∈ code.instrs.filterMap Instr.jump? →
    (code.instrs.filterMap Instr.jump?).count id = 1
  /-- The label of a jump stands at a larger index. -/
  ahead : ∀ (i j : Nat) (instr : Instr Nat) (id : Nat), code.instrs[i]? = some instr →
    instr.jump? = some id →
    code.instrs[j]? = some (.label id) → i < j
  /-- Every index of a constant is one of the pool. -/
  constants : ∀ index, .constant index ∈ code.instrs → index < code.constants.length

namespace Code

/-- Assembling code changes none of its jumps. -/
theorem jumps_assemble (located : List (Instr Value × Span)) :
    (assemble located).instrs.filterMap Instr.jump? = jumpsOf located := by
  apply filterMap_assemble
  intro _ instr
  cases instr <;> rfl

/-- A constant of assembled code is the index of a literal in its pool. -/
theorem constant_lt_assemble {located : List (Instr Value × Span)} {index : Nat}
    (member : .constant index ∈ (assemble located).instrs) :
    index < (assemble located).constants.length := by
  rw [instrs_assemble, List.mem_map] at member
  obtain ⟨instr, instrMember, instrEq⟩ := member
  obtain ⟨entry, entryMember, rfl⟩ := List.mem_map.mp instrMember
  rw [constants_assemble]
  cases literal : entry.1 with
  | constant v =>
      rw [literal] at instrEq
      cases instrEq
      exact List.idxOf_lt_length_of_mem
        (mem_constantPool.mpr ⟨entry, entryMember, by rw [literal]; rfl⟩)
  | operate | negate | dup | pop | label | jump | popJumpIf =>
      rw [literal] at instrEq
      cases instrEq

/-- Assembled code of expressions is well-formed. -/
theorem wellFormed_assemble (exprs : List Expr) : (assemble (Expr.codeAll exprs 0)).WellFormed := by
  have straight := assemble_straight exprs
  have once : ∀ id, id ∈ labelsOf (Expr.codeAll exprs 0) ∨ id ∈ jumpsOf (Expr.codeAll exprs 0) →
      (labelsOf (Expr.codeAll exprs 0)).count id = 1 := by
    intro id occurs
    have atMost := Expr.count_labels_codeAll exprs 0 id
    have atLeast : 0 < (labelsOf (Expr.codeAll exprs 0)).count id := by
      rcases occurs with label | jump
      · exact List.count_pos_iff.mpr label
      · rw [← Expr.count_jumps_codeAll]
        exact List.count_pos_iff.mpr jump
    rw [if_pos (Nat.zero_le id)] at atMost
    omega
  constructor
  case labelOnce =>
    rw [labels_assemble, jumps_assemble]
    exact once
  case jumpOnce =>
    rw [labels_assemble, jumps_assemble]
    intro id occurs
    rw [Expr.count_jumps_codeAll]
    exact once id occurs
  case ahead =>
    intro i j instr id found jumps place
    obtain ⟨target, later, targetPlace⟩ := straight.jumpsAhead.exists_label found jumps
    -- The label is defined once, so that it stands at `j` and nowhere else.
    have same := (straight.target? place).symm.trans (straight.target? targetPlace)
    cases same
    exact later
  case constants => exact fun index member => constant_lt_assemble member

/-! ### Instructions that a run executes -/

section Visited

variable {code : Code}

/-- No instruction fails for want of steps. -/
theorem step_ne_stepLimit (instr : Instr Nat) (s : State) :
    code.step instr s ≠ .error .stepLimit := by
  intro failed
  rcases step_eq_error failed with operands | ⟨_, _, _, unknown⟩
  · cases operands
  · cases unknown

/-- A run comes to its limit if there is an instruction to execute beyond it. -/
theorem runFrom_eq_stepLimit (limit : Nat) (s : State) :
    code.runFrom limit s = .error .stepLimit ↔ limit < (code.visitedFrom (limit + 1) s).length := by
  induction limit generalizing s with
  | zero =>
      cases current : code.instrs[s.next]? with
      | none => simp [runFrom_of_none current, visitedFrom_of_none current]
      | some instr =>
          rw [runFrom_zero_of_some current]
          cases stepped : code.step instr s with
          | error fault => simp [visitedFrom_of_error current stepped]
          | ok after => simp [visitedFrom_of_ok current stepped]
  | succ limit inductionHypothesis =>
      cases current : code.instrs[s.next]? with
      | none => simp [runFrom_of_none current, visitedFrom_of_none current]
      | some instr =>
          rw [runFrom_of_some current]
          cases stepped : code.step instr s with
          | error fault =>
              have other : fault ≠ .stepLimit := by
                rintro rfl
                exact step_ne_stepLimit instr s stepped
              simp [visitedFrom_of_error current stepped, other]
          | ok after =>
              rw [ok_bind, inductionHypothesis, visitedFrom_of_ok current stepped, List.length_cons,
                Nat.succ_lt_succ_iff]

/-- Under a smaller limit a run executes the first of the same instructions. -/
theorem take_visitedFrom {limit larger : Nat} (le : limit ≤ larger) (s : State) :
    (code.visitedFrom larger s).take limit = code.visitedFrom limit s := by
  induction limit generalizing larger s with
  | zero => rfl
  | succ limit inductionHypothesis =>
      obtain ⟨larger, rfl⟩ : ∃ n, larger = n + 1 := ⟨larger - 1, by omega⟩
      cases current : code.instrs[s.next]? with
      | none => simp [visitedFrom_of_none current]
      | some instr =>
          cases stepped : code.step instr s with
          | error fault => simp [visitedFrom_of_error current stepped]
          | ok after =>
              rw [visitedFrom_of_ok current stepped, visitedFrom_of_ok current stepped,
                List.take_succ_cons, inductionHypothesis (Nat.le_of_succ_le_succ le)]

/-- What is executed stands in the code, at the index of its state. -/
theorem getElem?_of_mem_visitedFrom {limit : Nat} {s : State} {entry : Instr Nat × State}
    (member : entry ∈ code.visitedFrom limit s) : code.instrs[entry.2.next]? = some entry.1 := by
  induction limit generalizing s with
  | zero => cases member
  | succ limit inductionHypothesis =>
      cases current : code.instrs[s.next]? with
      | none =>
          rw [visitedFrom_of_none current] at member
          cases member
      | some instr =>
          cases stepped : code.step instr s with
          | error fault =>
              rw [visitedFrom_of_error current stepped, List.mem_singleton] at member
              rw [member]
              exact current
          | ok after =>
              rw [visitedFrom_of_ok current stepped] at member
              rcases List.mem_cons.mp member with rfl | later
              · exact current
              · exact inductionHypothesis later

/-- In straight code the indices of what is executed increase from the one that a run begins at. -/
theorem Straight.increasing_visitedFrom (straight : code.Straight) (limit : Nat) (s : State) :
    ((code.visitedFrom limit s).map fun entry => entry.2.next).Pairwise (· < ·) ∧
      ∀ entry ∈ code.visitedFrom limit s, s.next ≤ entry.2.next := by
  induction limit generalizing s with
  | zero => simp [visitedFrom]
  | succ limit inductionHypothesis =>
      cases current : code.instrs[s.next]? with
      | none => simp [visitedFrom_of_none current]
      | some instr =>
          cases stepped : code.step instr s with
          | error fault => simp [visitedFrom_of_error current stepped]
          | ok after =>
              have later := straight.step_lt current stepped
              obtain ⟨increasing, lower⟩ := inductionHypothesis after
              rw [visitedFrom_of_ok current stepped, List.map_cons, List.pairwise_cons]
              refine ⟨⟨fun index member => ?_, increasing⟩, fun entry member => ?_⟩
              · obtain ⟨entry, entryMember, rfl⟩ := List.mem_map.mp member
                exact Nat.lt_of_lt_of_le later (lower entry entryMember)
              · rcases List.mem_cons.mp member with rfl | behind
                · exact Nat.le_refl _
                · exact Nat.le_trans (Nat.le_of_lt later) (lower entry behind)

/-- So there are no more of them than instructions left. -/
theorem Straight.length_visitedFrom_le (straight : code.Straight) (limit : Nat) (s : State) :
    (code.visitedFrom limit s).length ≤ code.instrs.length - s.next := by
  induction limit generalizing s with
  | zero => exact Nat.zero_le _
  | succ limit inductionHypothesis =>
      cases current : code.instrs[s.next]? with
      | none => simp [visitedFrom_of_none current]
      | some instr =>
          have inside : s.next < code.instrs.length := (List.getElem?_eq_some_iff.mp current).1
          cases stepped : code.step instr s with
          | error fault =>
              rw [visitedFrom_of_error current stepped, List.length_singleton]
              omega
          | ok after =>
              have later := straight.step_lt current stepped
              have shorter := inductionHypothesis after
              rw [visitedFrom_of_ok current stepped, List.length_cons]
              omega

/-- A run of straight code has a number of steps of its own. It executes as many instructions as
that and its limit allow, and fails for want of steps if the limit is smaller. -/
theorem Straight.exists_steps (straight : code.Straight) (s : State) :
    ∃ steps ≤ code.instrs.length - s.next, ∀ limit,
      (code.visitedFrom limit s).length = min limit steps ∧
        (code.runFrom limit s = .error .stepLimit ↔ limit < steps) := by
  let whole := code.instrs.length - s.next
  have bound := straight.length_visitedFrom_le
  have lengthEq : ∀ limit, (code.visitedFrom limit s).length =
      min limit (code.visitedFrom whole s).length := by
    intro limit
    rcases Nat.le_total limit whole with le | ge
    · rw [← take_visitedFrom le, List.length_take]
    · -- Beyond the number of instructions a larger limit leads to no more of them.
      have same : code.visitedFrom limit s = code.visitedFrom whole s := by
        rw [← take_visitedFrom ge, List.take_of_length_le (bound limit s)]
      rw [same]
      exact (Nat.min_eq_right (Nat.le_trans (bound whole s) ge)).symm
  refine ⟨(code.visitedFrom whole s).length, bound whole s, fun limit => ⟨lengthEq limit, ?_⟩⟩
  rw [runFrom_eq_stepLimit, lengthEq]
  omega

end Visited

end Code

/-! ### Lowered code -/

namespace Stmt

/-- Lowered code is well formed: every id that occurs in it is that of one label and of one jump,
jumps go ahead, and constants are in the pool. Whatever its limit, a run of it executes instructions
of the code at increasing indices, so none of them twice. It comes to an end within as many steps as
there are instructions, and fails for want of steps only under a smaller limit. -/
theorem lower_wellFormed {s : Stmt} {code : Code} (lowered : s.lower = .ok code) :
    code.WellFormed ∧
      (∀ limit, ((code.visited limit).map fun entry => entry.2.next).Pairwise (· < ·) ∧
        ∀ entry ∈ code.visited limit, code.instrs[entry.2.next]? = some entry.1) ∧
      ∃ steps ≤ code.instrs.length, ∀ limit, (code.visited limit).length = min limit steps ∧
        (code.run limit = .error .stepLimit ↔ limit < steps) := by
  obtain ⟨_, rfl⟩ := lower_eq_ok.mp lowered
  have straight := Code.assemble_straight s.expressions
  have noFault := straight.labelFault?_eq_none
  refine ⟨Code.wellFormed_assemble s.expressions, ?_, ?_⟩
  · intro limit
    simp only [Code.visited, noFault]
    exact ⟨(straight.increasing_visitedFrom limit .initial).1,
      fun entry => Code.getElem?_of_mem_visitedFrom⟩
  · simp only [Code.visited, Code.run, noFault]
    exact straight.exists_steps .initial

/-- The code of two statements with two labels each. Its run passes over the branch that is not
taken. -/
theorem lower_wellFormed_nestedSample :
    ∃ code, nestedSample.lower = .ok code ∧ code.instrs.length = 24 ∧ code.WellFormed ∧
      ((code.visited 24).map fun entry => entry.2.next).Pairwise (· < ·) ∧
      ∃ steps ≤ code.instrs.length, (code.visited 24).length = min 24 steps ∧
        (code.run 24 = .error .stepLimit ↔ 24 < steps) := by
  have lowered : nestedSample.lower = .ok (.assemble (Expr.codeAll nestedSample.expressions 0)) :=
    lower_eq _
  obtain ⟨wellFormed, increasing, steps, bound, ends⟩ := lower_wellFormed lowered
  exact ⟨_, lowered, by decide +kernel, wellFormed, (increasing 24).1, steps, bound, ends 24⟩

end Stmt

end Reckon
