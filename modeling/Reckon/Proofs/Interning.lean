/-
Module: Reckon.Proofs.Interning
Purpose: Constants are interned exactly. While code is assembled, the text of a constant leads to
  its place in the pool and to no other, since different values have different texts. So the pool
  collects every constant once, in the order of first use, and each literal is replaced by the index
  of its own entry.
Main exports: constantsOf, constantPool, mem_constantPool, nodup_constantPool, Assembly.InStep,
  Assembly.InStep.write, Code.constants_assemble, Code.instrs_assemble
-/
import Reckon.Proofs.Generation
import Reckon.Proofs.Inspection

namespace Reckon

/-! ### Pools -/

/-- A pool of constants with one more, unless it is there already. -/
def intern (pool : List Value) (v : Value) : List Value :=
  if v ∈ pool then pool else pool ++ [v]

/-- The constants that a piece of code pushes, in its order. -/
def constantsOf (located : List (Instr Value × Span)) : List Value :=
  located.filterMap fun entry => entry.1.constant?

@[simp] theorem constantsOf_nil : constantsOf [] = [] :=
  rfl

@[simp] theorem constantsOf_cons (entry : Instr Value × Span) (rest : List (Instr Value × Span)) :
    constantsOf (entry :: rest) = entry.1.constant?.toList ++ constantsOf rest := by
  cases found : entry.1.constant? <;> simp [constantsOf, found]

@[simp] theorem constantsOf_append (first second : List (Instr Value × Span)) :
    constantsOf (first ++ second) = constantsOf first ++ constantsOf second :=
  List.filterMap_append

/-- The constants of a piece of code, each once, in the order of first use. -/
def constantPool (located : List (Instr Value × Span)) : List Value :=
  (constantsOf located).foldl intern []

/-- Interning adds the constant and keeps the others. -/
theorem mem_intern {pool : List Value} {v w : Value} : w ∈ intern pool v ↔ w ∈ pool ∨ w = v := by
  unfold intern
  split
  · next member =>
      constructor
      · exact Or.inl
      · rintro (old | rfl)
        · exact old
        · exact member
  · simp

/-- The pool holds exactly the constants of the code. -/
theorem mem_constantPool {located : List (Instr Value × Span)} {v : Value} :
    v ∈ constantPool located ↔ ∃ entry ∈ located, entry.1.constant? = some v := by
  have collected : ∀ (values pool : List Value),
      v ∈ values.foldl intern pool ↔ v ∈ pool ∨ v ∈ values := by
    intro values
    induction values with
    | nil => simp
    | cons head rest inductionHypothesis =>
        intro pool
        rw [List.foldl_cons, inductionHypothesis, mem_intern, List.mem_cons, or_assoc]
  rw [constantPool, collected]
  simp [constantsOf]

/-- A pool that is built by interning holds nothing twice. -/
theorem nodup_foldl_intern {pool : List Value} (nodup : pool.Nodup) (values : List Value) :
    (values.foldl intern pool).Nodup := by
  induction values generalizing pool with
  | nil => exact nodup
  | cons v values inductionHypothesis =>
      apply inductionHypothesis
      unfold intern
      split
      · exact nodup
      · next new =>
          refine List.nodup_append.mpr ⟨nodup, List.nodup_singleton v, ?_⟩
          intro w member u single same
          rw [List.mem_singleton] at single
          rw [same, single] at member
          exact new member

/-- Every constant stands once in the pool. -/
theorem nodup_constantPool (located : List (Instr Value × Span)) : (constantPool located).Nodup :=
  nodup_foldl_intern List.nodup_nil _

/-- What is in a pool keeps its place. -/
theorem prefix_foldl_intern (values pool : List Value) : pool <+: values.foldl intern pool := by
  induction values generalizing pool with
  | nil => exact List.prefix_refl pool
  | cons v values inductionHypothesis =>
      refine List.IsPrefix.trans ?_ (inductionHypothesis (intern pool v))
      unfold intern
      split
      · exact List.prefix_refl pool
      · exact List.prefix_append pool [v]

/-- An index stays the same when the pool grows. -/
theorem idxOf_of_isPrefix {pool whole : List Value} (isPrefix : pool <+: whole) {v : Value}
    (member : v ∈ pool) : whole.idxOf v = pool.idxOf v := by
  obtain ⟨added, rfl⟩ := isPrefix
  exact List.idxOf_append_of_mem member

/-! ### Indices by text -/

namespace Assembly

variable {a : Assembly}

/-- The indices are in step with the pool: the text of a constant leads to its place, and no other
text leads anywhere. -/
def InStep (a : Assembly) : Prop :=
  ∀ v, a.indices.lookup v.inspect = if v ∈ a.code.constants then some (a.code.constants.idxOf v)
    else none

theorem inStep_empty : empty.InStep := by
  intro v
  rfl

/-- The index that is kept under a text is the place of the constant in the pool. -/
theorem InStep.index_eq (inStep : a.InStep) {v : Value} (member : v ∈ a.code.constants) :
    a.index v = a.code.constants.idxOf v := by
  rw [index, inStep v, if_pos member, Option.getD_some]

/-- Interning by texts does the same to the pool as interning by values, since a text tells its
constant. -/
theorem InStep.intern (inStep : a.InStep) (v : Value) :
    (a.intern v).InStep ∧ (a.intern v).code.constants = Reckon.intern a.code.constants v ∧
      (a.intern v).code.instrs = a.code.instrs := by
  unfold Assembly.intern Reckon.intern
  by_cases known : v ∈ a.code.constants
  · rw [inStep v, if_pos known, if_pos known]
    exact ⟨inStep, rfl, rfl⟩
  · rw [inStep v, if_neg known, if_neg known]
    refine ⟨?_, rfl, rfl⟩
    intro w
    -- Only the constant itself has its text, so no index that is there already is hidden by the new
    -- one.
    by_cases same : w = v
    · subst same
      have place : (a.code.constants ++ [w]).idxOf w = a.code.constants.length := by
        rw [List.idxOf_append_of_notMem known, List.idxOf_cons_self, Nat.add_zero]
      simp [Code.addConstant, place]
    · have otherText : (w.inspect == v.inspect) = false := by
        simpa using fun sameText => same (Value.inspect_injective sameText)
      rw [List.lookup_cons, otherText]
      simp only [Code.addConstant, List.mem_append, List.mem_singleton, same, or_false]
      rw [inStep w]
      split
      · next member => rw [List.idxOf_append_of_mem member]
      · rfl

end Assembly

theorem Instr.map_congr {κ μ : Type} {f g : κ → μ} {instr : Instr κ}
    (agree : ∀ c, instr.constant? = some c → f c = g c) : instr.map f = instr.map g := by
  cases instr with
  | constant c => exact congrArg _ (agree c rfl)
  | _ => rfl

namespace Assembly

variable {a : Assembly}

/-- Writing an instruction keeps the indices in step, and puts the place of its literal for the
literal. -/
theorem InStep.write (inStep : a.InStep) (instr : Instr Value) (span : Span) :
    (a.write instr span).InStep ∧
      (a.write instr span).code.constants =
        instr.constant?.toList.foldl Reckon.intern a.code.constants ∧
      (a.write instr span).code.instrs =
        a.code.instrs ++ [instr.map (a.write instr span).code.constants.idxOf] := by
  cases literal : instr.constant? with
  | none =>
      have written : a.write instr span =
          { a with code := a.code.write (instr.map a.index) span } := by
        rw [Assembly.write, literal, Option.elim_none]
      rw [written]
      refine ⟨inStep, rfl, ?_⟩
      have sameInstr : instr.map a.index = instr.map a.code.constants.idxOf := by
        apply Instr.map_congr
        intro v found
        rw [literal] at found
        cases found
      exact congrArg (fun last => a.code.instrs ++ [last]) sameInstr
  | some v =>
      obtain ⟨internStep, constantsEq, instrsEq⟩ := inStep.intern v
      have written : a.write instr span =
          { a.intern v with
            code := (a.intern v).code.write (instr.map (a.intern v).index) span } := by
        rw [Assembly.write, literal, Option.elim_some]
      rw [written]
      refine ⟨internStep, constantsEq, ?_⟩
      have sameInstr : instr.map (a.intern v).index =
          instr.map (a.intern v).code.constants.idxOf := by
        apply Instr.map_congr
        intro w found
        rw [literal] at found
        cases found
        apply internStep.index_eq
        rw [constantsEq, mem_intern]
        exact .inr rfl
      simp only [Code.write, instrsEq, sameInstr]

/-- Over a whole piece of code the pool collects its constants, and every literal is replaced by its
place in the final pool. -/
theorem InStep.foldl_write (inStep : a.InStep) (located : List (Instr Value × Span)) :
    (located.foldl (fun a entry => a.write entry.1 entry.2) a).code.constants =
        (constantsOf located).foldl Reckon.intern a.code.constants ∧
      (located.foldl (fun a entry => a.write entry.1 entry.2) a).code.instrs =
        a.code.instrs ++ (located.map Prod.fst).map (Instr.map
          ((constantsOf located).foldl Reckon.intern a.code.constants).idxOf) := by
  induction located generalizing a with
  | nil => simp
  | cons entry rest inductionHypothesis =>
      obtain ⟨nextStep, constantsEq, instrsEq⟩ := inStep.write entry.1 entry.2
      obtain ⟨restConstants, restInstrs⟩ := inductionHypothesis nextStep
      have collected : (constantsOf (entry :: rest)).foldl Reckon.intern a.code.constants =
          (constantsOf rest).foldl Reckon.intern (a.write entry.1 entry.2).code.constants := by
        rw [constantsOf_cons, List.foldl_append, constantsEq]
      rw [List.foldl_cons, restConstants, restInstrs, collected, instrsEq, List.append_assoc]
      refine ⟨rfl, ?_⟩
      -- The literal of the first instruction keeps the place that it has now.
      have kept : entry.1.map (a.write entry.1 entry.2).code.constants.idxOf =
          entry.1.map ((constantsOf rest).foldl Reckon.intern
            (a.write entry.1 entry.2).code.constants).idxOf := by
        apply Instr.map_congr
        intro v found
        have member : v ∈ (a.write entry.1 entry.2).code.constants := by
          rw [constantsEq, found]
          exact mem_intern.mpr (.inr rfl)
        exact (idxOf_of_isPrefix (prefix_foldl_intern _ _) member).symm
      rw [kept]
      rfl

end Assembly

/-! ### Assembled code -/

namespace Code

/-- The pool of assembled code holds its literals, each once, in the order of first use. -/
theorem constants_assemble (located : List (Instr Value × Span)) :
    (assemble located).constants = constantPool located :=
  (Assembly.inStep_empty.foldl_write located).1

/-- In assembled code each literal is replaced by its index in the pool. -/
theorem instrs_assemble (located : List (Instr Value × Span)) :
    (assemble located).instrs =
      (located.map Prod.fst).map (Instr.map (constantPool located).idxOf) :=
  (Assembly.inStep_empty.foldl_write located).2

end Code

end Reckon
