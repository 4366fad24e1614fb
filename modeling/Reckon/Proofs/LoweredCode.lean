/-
Module: Reckon.Proofs.LoweredCode
Purpose: The shape of lowered code. The labels of the code of a tree are the ids from the given one
  on, each of them defined once, and every jump goes ahead. Assembling changes neither. So lowered
  code is straight, and it holds the code of every expression where that was put.
Main exports: Expr.count_labels_code, Expr.jumpsAhead_code, Code.HasAt, Code.Contains,
  Code.filterMap_assemble, Code.assemble_straight, Code.assemble_contains
-/
import Reckon.Proofs.Interning
import Reckon.Proofs.StraightRun

namespace Reckon

/-! ### Labels -/

/-- The ids of the labels that a piece of code defines, in its order. -/
def labelsOf (located : List (Instr Value × Span)) : List Nat :=
  (located.map Prod.fst).filterMap Instr.label?

@[simp] theorem labelsOf_nil : labelsOf [] = [] :=
  rfl

@[simp] theorem labelsOf_cons (entry : Instr Value × Span) (rest : List (Instr Value × Span)) :
    labelsOf (entry :: rest) = entry.1.label?.toList ++ labelsOf rest := by
  cases labelEq : entry.1.label? <;> simp [labelsOf, labelEq]

@[simp] theorem labelsOf_append (first second : List (Instr Value × Span)) :
    labelsOf (first ++ second) = labelsOf first ++ labelsOf second := by
  simp [labelsOf, List.filterMap_append]

namespace Expr

/-- The code of a tree defines each of the `labelCount` ids from `next` on once, and no other. -/
theorem count_labels_code (e : Expr) (next id : Nat) :
    (labelsOf (e.code next)).count id =
      if next ≤ id ∧ id < next + e.labelCount then 1 else 0 := by
  induction e generalizing next with
  | value span v => grind [code, labelCount, Instr.label?, labelsOf_cons, labelsOf_nil]
  | unary op opSpan operand operandCount =>
      cases op with
      | plus =>
          simp only [code, List.append_nil]
          exact operandCount next
      | minus =>
          simp only [code, labelsOf_append, labelsOf_cons, labelsOf_nil, Instr.label?,
            Option.toList_none, List.append_nil]
          exact operandCount next
  | binary family op left right leftCount rightCount =>
      have noLabel : labelsOf (op.operation?.toList.map fun operation =>
          (.operate operation, left.span.join right.span)) = [] := by
        cases op.operation? <;> rfl
      simp only [code, labelCount, labelsOf_append, List.count_append, leftCount, rightCount,
        noLabel, List.count_nil]
      grind
  | coalesce left right leftCount rightCount =>
      simp only [code, labelCount, labelsOf_append, labelsOf_cons, labelsOf_nil, Instr.label?,
        Option.toList_none, Option.toList_some, List.nil_append, List.append_nil,
        List.count_append, List.count_singleton, leftCount, rightCount]
      grind
  | conditional cond ifTrue ifFalse condCount trueCount falseCount =>
      simp only [code, labelCount, labelsOf_append, labelsOf_cons, labelsOf_nil, Instr.label?,
        Option.toList_none, Option.toList_some, List.nil_append, List.append_nil,
        List.count_append, List.count_singleton, condCount, trueCount, falseCount]
      grind
  | guarded cond ifTrue condCount trueCount =>
      simp only [code, labelCount, labelsOf_append, labelsOf_cons, labelsOf_nil, Instr.label?,
        Option.toList_none, Option.toList_some, List.nil_append, List.append_nil,
        List.count_append, List.count_singleton, condCount, trueCount]
      grind
  | error diagnostic => grind [code, labelCount, labelsOf_nil]

/-- The code of expressions defines no label twice. -/
theorem count_labels_codeAll (exprs : List Expr) (next id : Nat) :
    (labelsOf (codeAll exprs next)).count id ≤ if next ≤ id then 1 else 0 := by
  induction exprs generalizing next with
  | nil => simp [codeAll]
  | cons e rest inductionHypothesis =>
      have restCount := inductionHypothesis (next + e.labelCount)
      simp only [codeAll, labelsOf_append, List.count_append, count_labels_code]
      grind

/-- The code of a tree jumps ahead only. -/
theorem jumpsAhead_code (e : Expr) (next : Nat) : JumpsAhead ((e.code next).map Prod.fst) := by
  have labelAhead (id : Nat) : JumpsAhead ([.label id] : List (Instr Value)) := by
    simp [JumpsAhead, Instr.jump?]
  induction e generalizing next with
  | value span v => simp [code, JumpsAhead, Instr.jump?]
  | unary op opSpan operand operandAhead =>
      cases op with
      | plus => simpa [code] using operandAhead next
      | minus =>
          simp only [code, List.map_append]
          exact (operandAhead next).append (by simp [JumpsAhead, Instr.jump?])
  | binary family op left right leftAhead rightAhead =>
      simp only [code, List.map_append]
      refine ((leftAhead _).append (rightAhead _)).append ?_
      cases op.operation? <;> simp [JumpsAhead, Instr.jump?]
  | coalesce left right leftAhead rightAhead =>
      have labels : JumpsAhead
          ([.jump (next + 1), .label next, .label (next + 1)] : List (Instr Value)) := by
        simp [JumpsAhead, Instr.jump?]
      have rest := (rightAhead (next + 2 + left.labelCount)).append labels
      simp only [code, List.map_append, List.append_assoc]
      refine (leftAhead _).append ?_
      simpa [JumpsAhead, Instr.jump?] using rest
  | conditional cond ifTrue ifFalse condAhead trueAhead falseAhead =>
      have branch := (trueAhead (next + 2 + cond.labelCount + ifFalse.labelCount)).append
        (labelAhead (next + 1))
      have joined : JumpsAhead (.jump (next + 1) :: .label next :: _) :=
        ⟨by simp [Instr.jump?], by simp [Instr.jump?], branch⟩
      have rest := (falseAhead (next + 2 + cond.labelCount)).append joined
      simp only [code, List.map_append, List.append_assoc]
      refine (condAhead _).append ?_
      simpa [JumpsAhead, Instr.jump?] using rest
  | guarded cond ifTrue condAhead trueAhead =>
      have branch := (trueAhead (next + 2 + cond.labelCount)).append (labelAhead (next + 1))
      simp only [code, List.map_append, List.append_assoc]
      refine (condAhead _).append ?_
      simpa [JumpsAhead, Instr.jump?] using branch
  | error diagnostic => trivial

/-- The jumps in the code of expressions go ahead. -/
theorem jumpsAhead_codeAll (exprs : List Expr) (next : Nat) :
    JumpsAhead ((codeAll exprs next).map Prod.fst) := by
  induction exprs generalizing next with
  | nil => trivial
  | cons e rest inductionHypothesis =>
      rw [codeAll, List.map_append]
      exact (jumpsAhead_code e next).append (inductionHypothesis _)

end Expr

/-! ### Code that holds a piece of code -/

namespace Code

/-- An instruction over literals stands at an index, its literal replaced by the index of the
literal in the pool. -/
def HasAt (code : Code) (i : Nat) (instr : Instr Value) : Prop :=
  code.instrs[i]? = some (instr.map code.constants.idxOf) ∧
    ∀ v, instr.constant? = some v → v ∈ code.constants

/-- A piece of code over literals stands from an index on. -/
def Contains (code : Code) (start : Nat) (located : List (Instr Value × Span)) : Prop :=
  ∀ k entry, located[k]? = some entry → code.HasAt (start + k) entry.1

variable {code : Code}

/-- Code that holds a piece has its first instruction and holds the rest behind it. -/
theorem contains_cons {start : Nat} {entry : Instr Value × Span}
    {rest : List (Instr Value × Span)} :
    code.Contains start (entry :: rest) ↔
      code.HasAt start entry.1 ∧ code.Contains (start + 1) rest := by
  constructor
  · intro contained
    refine ⟨contained 0 entry rfl, ?_⟩
    intro k other found
    have place := contained (k + 1) other (by simpa using found)
    rwa [show start + (k + 1) = start + 1 + k by omega] at place
  · rintro ⟨first, others⟩ k other found
    cases k with
    | zero =>
        cases found
        exact first
    | succ k =>
        have place := others k other (by simpa using found)
        rwa [show start + 1 + k = start + (k + 1) by omega] at place

/-- Code that holds two pieces behind each other holds both. -/
theorem contains_append {start : Nat} {first second : List (Instr Value × Span)} :
    code.Contains start (first ++ second) ↔
      code.Contains start first ∧ code.Contains (start + first.length) second := by
  induction first generalizing start with
  | nil => simp [Contains]
  | cons entry rest inductionHypothesis =>
      rw [List.cons_append, contains_cons, contains_cons, inductionHypothesis, and_assoc,
        List.length_cons, show start + 1 + rest.length = start + (rest.length + 1) by omega]

/-! ### Assembled code -/

/-- Assembled code holds the code that it was assembled from. -/
theorem assemble_contains (located : List (Instr Value × Span)) :
    (assemble located).Contains 0 located := by
  intro k entry found
  constructor
  · rw [instrs_assemble, constants_assemble]
    simp [found]
  · intro v isConstant
    rw [constants_assemble]
    exact mem_constantPool.mpr ⟨entry, List.mem_of_getElem? found, isConstant⟩

/-- What does not depend on the constants of an instruction is the same after assembling. -/
theorem filterMap_assemble {f : Instr Nat → Option Nat} {g : Instr Value → Option Nat}
    (same : ∀ index instr, f (instr.map index) = g instr) (located : List (Instr Value × Span)) :
    (assemble located).instrs.filterMap f = (located.map Prod.fst).filterMap g := by
  rw [instrs_assemble, List.filterMap_map]
  congr 1
  funext instr
  exact same _ instr

/-- Assembling code changes none of its labels. -/
theorem labels_assemble (located : List (Instr Value × Span)) :
    (assemble located).instrs.filterMap Instr.label? = labelsOf located := by
  apply filterMap_assemble
  intro _ instr
  cases instr <;> rfl

/-- The code of a row of expressions is straight. -/
theorem assemble_straight (exprs : List Expr) : (assemble (Expr.codeAll exprs 0)).Straight := by
  constructor
  · rw [labels_assemble, List.nodup_iff_count]
    intro id
    have once := Expr.count_labels_codeAll exprs 0 id
    simpa using once
  · rw [instrs_assemble]
    exact (Expr.jumpsAhead_codeAll exprs 0).map _

end Code

end Reckon
