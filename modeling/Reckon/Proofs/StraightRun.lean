/-
Module: Reckon.Proofs.StraightRun
Purpose: Runs of code whose jumps all go ahead. In such code every label has one place, a step leads
  to a larger index, and a run that may take as many steps as there are instructions left always
  comes to its end; giving it more changes nothing. So the run from a state on is a function of the
  state alone, `Code.resume`.
Main exports: JumpsAhead, Code.Straight, Code.Straight.labelFault?_eq_none, Code.Straight.step_lt,
  Code.resume, Code.Straight.resume_eq_step, Code.Straight.run_eq_resume
-/
import Reckon.Proofs.LabelCheck

namespace Reckon

variable {κ μ : Type}

/-! ### Jumps that go ahead -/

/-- Every jump of a piece of code goes to a label that stands behind it. -/
def JumpsAhead : List (Instr κ) → Prop
  | [] => True
  | instr :: rest => (∀ id, instr.jump? = some id → .label id ∈ rest) ∧ JumpsAhead rest

namespace JumpsAhead

/-- A piece of code behind another only adds labels that the first may jump to. -/
theorem append {first second : List (Instr κ)} (firstAhead : JumpsAhead first)
    (secondAhead : JumpsAhead second) : JumpsAhead (first ++ second) := by
  induction first with
  | nil => exact secondAhead
  | cons instr rest inductionHypothesis =>
      refine ⟨?_, inductionHypothesis firstAhead.2⟩
      intro id jumps
      exact List.mem_append_left _ (firstAhead.1 id jumps)

/-- The label of a jump stands at a larger index. -/
theorem exists_label {instrs : List (Instr κ)} (ahead : JumpsAhead instrs) {i id : Nat}
    {instr : Instr κ} (found : instrs[i]? = some instr) (jumps : instr.jump? = some id) :
    ∃ j, i < j ∧ instrs[j]? = some (.label id) := by
  induction instrs generalizing i with
  | nil => simp at found
  | cons head rest inductionHypothesis =>
      cases i with
      | zero =>
          simp only [List.getElem?_cons_zero, Option.some.injEq] at found
          subst found
          obtain ⟨j, place⟩ := List.mem_iff_getElem?.mp (ahead.1 id jumps)
          exact ⟨j + 1, Nat.succ_pos j, by simpa using place⟩
      | succ i =>
          obtain ⟨j, later, place⟩ := inductionHypothesis ahead.2 (by simpa using found)
          exact ⟨j + 1, Nat.succ_lt_succ later, by simpa using place⟩

/-- Other constants do not move labels and jumps. -/
theorem map {instrs : List (Instr κ)} (ahead : JumpsAhead instrs) (f : κ → μ) :
    JumpsAhead (instrs.map (Instr.map f)) := by
  induction instrs with
  | nil => trivial
  | cons instr rest inductionHypothesis =>
      refine ⟨?_, inductionHypothesis ahead.2⟩
      intro id jumps
      have sameJump : instr.jump? = some id := by
        cases instr <;> exact jumps
      exact List.mem_map.mpr ⟨_, ahead.1 id sameJump, rfl⟩

end JumpsAhead

/-- Code in which every label is defined once and every jump goes ahead. -/
structure Code.Straight (code : Code) : Prop where
  labelsNodup : (code.instrs.filterMap Instr.label?).Nodup
  jumpsAhead : JumpsAhead code.instrs

/-! ### Labels -/

/-- The label of a jump is found where it is defined. -/
theorem Code.Straight.target? {code : Code} (straight : code.Straight) {j id : Nat}
    (place : code.instrs[j]? = some (.label id)) : code.target? id = some j :=
  target?_of_once (nodup_labels_iff.mp straight.labelsNodup id) place

/-- The labels of straight code are in order. -/
theorem Code.Straight.labelFault?_eq_none {code : Code} (straight : code.Straight) :
    code.labelFault? = none := by
  refine labelFault?_eq_none_iff.mpr ⟨nodup_labels_iff.mp straight.labelsNodup, ?_⟩
  rintro id ⟨instr, member, jumps, astray⟩
  obtain ⟨i, found⟩ := List.mem_iff_getElem?.mp member
  obtain ⟨j, _, place⟩ := straight.jumpsAhead.exists_label found jumps
  exact astray (List.mem_of_getElem? place)

/-! ### Steps -/

namespace Code

variable {code : Code}

/-- A step goes on behind its instruction, or at the label that the instruction names. -/
theorem step_next {instr : Instr Nat} {s after : State} (stepped : code.step instr s = .ok after) :
    after.next = s.next + 1 ∨ ∃ id, instr.jump? = some id ∧ code.target? id = some after.next := by
  cases step_eq_ok_iff.mp stepped with
  | jump found => exact .inr ⟨_, rfl, found⟩
  | jumpIf _ found => exact .inr ⟨_, rfl, found⟩
  | _ => exact .inl rfl

/-- In straight code every step goes ahead. -/
theorem Straight.step_lt (straight : code.Straight) {instr : Instr Nat} {s after : State}
    (current : code.instrs[s.next]? = some instr) (stepped : code.step instr s = .ok after) :
    s.next < after.next := by
  rcases step_next stepped with behind | ⟨id, jumps, target⟩
  · omega
  · obtain ⟨j, later, place⟩ := straight.jumpsAhead.exists_label current jumps
    rw [straight.target? place, Option.some.injEq] at target
    omega

/-! ### Runs -/

/-- In straight code the limit does not matter once there is a step for every instruction left. -/
theorem Straight.runFrom_eq_runFrom (straight : code.Straight) {first second : Nat} {s : State}
    (enough : code.instrs.length - s.next ≤ first)
    (enough' : code.instrs.length - s.next ≤ second) :
    code.runFrom first s = code.runFrom second s := by
  induction first generalizing second s with
  | zero =>
      have ended : code.instrs[s.next]? = none := List.getElem?_eq_none (by omega)
      rw [runFrom_of_none ended, runFrom_of_none ended]
  | succ first inductionHypothesis =>
      cases current : code.instrs[s.next]? with
      | none => rw [runFrom_of_none current, runFrom_of_none current]
      | some instr =>
          have inside : s.next < code.instrs.length := (List.getElem?_eq_some_iff.mp current).1
          obtain ⟨second, rfl⟩ : ∃ n, second = n + 1 := ⟨second - 1, by omega⟩
          rw [runFrom_of_some current, runFrom_of_some current]
          cases stepped : code.step instr s with
          | error fault => rfl
          | ok after =>
              -- The step went ahead, so fewer instructions are left than either limit has steps.
              have later := straight.step_lt current stepped
              exact inductionHypothesis (by omega) (by omega)

/-- The run from a state on, with as many steps as there are instructions left. -/
def resume (code : Code) (s : State) : Except MachineFault (List Value) :=
  code.runFrom (code.instrs.length - s.next) s

/-- Behind the last instruction there is nothing to resume. -/
theorem resume_of_length_le {s : State} (ended : code.instrs.length ≤ s.next) :
    code.resume s = .ok s.stack.toList :=
  runFrom_of_none (List.getElem?_eq_none ended)

/-- Before its end a run is a step and the run from there on. -/
theorem Straight.resume_eq_step (straight : code.Straight) {instr : Instr Nat} {s : State}
    (current : code.instrs[s.next]? = some instr) :
    code.resume s = code.step instr s >>= code.resume := by
  have inside : s.next < code.instrs.length := (List.getElem?_eq_some_iff.mp current).1
  obtain ⟨left, leftEq⟩ : ∃ n, code.instrs.length - s.next = n + 1 :=
    ⟨code.instrs.length - s.next - 1, by omega⟩
  rw [resume, leftEq, runFrom_of_some current]
  cases stepped : code.step instr s with
  | error fault => rfl
  | ok after =>
      have later := straight.step_lt current stepped
      exact straight.runFrom_eq_runFrom (by omega) (Nat.le_refl _)

/-- A run of straight code under a limit of at least its length is what the first state resumes
to. -/
theorem Straight.run_eq_resume (straight : code.Straight) {limit : Nat}
    (enough : code.instrs.length ≤ limit) : code.run limit = code.resume .initial := by
  rw [run, straight.labelFault?_eq_none]
  exact straight.runFrom_eq_runFrom (Nat.le_trans (Nat.sub_le _ _) enough) (Nat.le_refl _)

end Code

end Reckon
