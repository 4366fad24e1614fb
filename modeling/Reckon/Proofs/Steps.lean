/-
Module: Reckon.Proofs.Steps
Purpose: What the machine does, step by step. Each instruction has its rules, which say from which
  states it leads to which, and a step succeeds by one of them or fails for its operands, its
  constant or its label. A run is a row of such steps: it ends in a state that steps lead to from
  the first one, by a fault of such a state, or at its limit.
Main exports: Code.Executes, Code.step_eq_ok_iff, MachineFault.concern, Code.step_eq_error,
  Code.runFrom_of_some, Code.visitedFrom_of_ok, Code.Reached, Code.Reached.keeps,
  Code.runFrom_cases, Code.Reached.of_mem_visited
-/
import Reckon.Proofs.Evaluation

namespace Reckon

namespace Code

variable {code : Code}

/-! ### Rules of the instructions -/

/-- The rules by which an instruction leads from one state to another. -/
inductive Executes (code : Code) : Instr Nat → State → State → Prop where
  | constant {index next : Nat} {v : Value} {items : List Value}
      (pooled : code.constants[index]? = some v) :
      Executes code (.constant index) ⟨next, ⟨items⟩⟩ ⟨next + 1, ⟨v.narrow :: items⟩⟩
  | operate {operation : Operation} {next : Nat} {left right result : Value} {below : List Value}
      (applied : Value.binary (operation.operatorFor left right) left right = .ok result) :
      Executes code (.operate operation) ⟨next, ⟨right :: left :: below⟩⟩
        ⟨next + 1, ⟨result :: below⟩⟩
  | negate {next : Nat} {operand result : Value} {below : List Value}
      (applied : Value.unary .minus operand = .ok result) :
      Executes code .negate ⟨next, ⟨operand :: below⟩⟩ ⟨next + 1, ⟨result :: below⟩⟩
  | dup {next : Nat} {top : Value} {below : List Value} :
      Executes code .dup ⟨next, ⟨top :: below⟩⟩ ⟨next + 1, ⟨top :: top :: below⟩⟩
  | pop {next : Nat} {top : Value} {below : List Value} :
      Executes code .pop ⟨next, ⟨top :: below⟩⟩ ⟨next + 1, ⟨below⟩⟩
  | label {id next : Nat} {items : List Value} :
      Executes code (.label id) ⟨next, ⟨items⟩⟩ ⟨next + 1, ⟨items⟩⟩
  | jump {id next index : Nat} {items : List Value} (found : code.target? id = some index) :
      Executes code (.jump id) ⟨next, ⟨items⟩⟩ ⟨index, ⟨items⟩⟩
  | jumpIf {expected : Bool} {id next index : Nat} {condition : Value} {below : List Value}
      (met : condition.isTruthy = expected) (found : code.target? id = some index) :
      Executes code (.popJumpIf expected id) ⟨next, ⟨condition :: below⟩⟩ ⟨index, ⟨below⟩⟩
  | goOn {expected : Bool} {id next : Nat} {condition : Value} {below : List Value}
      (unmet : condition.isTruthy ≠ expected) :
      Executes code (.popJumpIf expected id) ⟨next, ⟨condition :: below⟩⟩ ⟨next + 1, ⟨below⟩⟩

/-- An operation replaces the two topmost values by its result. -/
theorem step_operate (operation : Operation) (next : Nat) (left right : Value)
    (below : List Value) :
    code.step (.operate operation) ⟨next, ⟨right :: left :: below⟩⟩ = (do
      let result ← (Value.binary (operation.operatorFor left right) left right).mapError
        fun fault => .binaryFault fault (operation.operatorFor left right) left.kind right.kind
      .ok ⟨next + 1, ⟨result :: below⟩⟩) := by
  simp only [step, popValue, Stack.pop?, ok_bind]
  cases Value.binary (operation.operatorFor left right) left right <;> rfl

/-- Negation replaces the topmost value. -/
theorem step_negate (next : Nat) (operand : Value) (below : List Value) :
    code.step .negate ⟨next, ⟨operand :: below⟩⟩ = (do
      let result ← (Value.unary .minus operand).mapError fun fault =>
        .negateFault fault operand.kind
      .ok ⟨next + 1, ⟨result :: below⟩⟩) := by
  simp only [step, popValue, Stack.pop?, ok_bind]
  cases Value.unary .minus operand <;> rfl

/-- A conditional jump drops its condition. -/
theorem step_popJumpIf (expected : Bool) (id next : Nat) (condition : Value) (below : List Value) :
    code.step (.popJumpIf expected id) ⟨next, ⟨condition :: below⟩⟩ =
      if condition.isTruthy = expected then code.goTo id ⟨below⟩ else .ok ⟨next + 1, ⟨below⟩⟩ :=
  rfl

/-- A jump arrives at the place of its label. -/
theorem goTo_eq_ok {id : Nat} {stack : Stack Value} {after : State} :
    code.goTo id stack = .ok after ↔
      ∃ index, code.target? id = some index ∧ after = ⟨index, stack⟩ := by
  unfold goTo
  cases code.target? id with
  | none => simp
  | some index => simp [eq_comm]

/-- A step succeeds by a rule of its instruction, and only so. -/
theorem step_eq_ok_iff {instr : Instr Nat} {s after : State} :
    code.step instr s = .ok after ↔ code.Executes instr s after := by
  constructor
  · intro stepped
    obtain ⟨next, ⟨items⟩⟩ := s
    cases instr with
    | constant index =>
        simp only [step] at stepped
        split at stepped
        · next pooled =>
            cases stepped
            exact .constant pooled
        · cases stepped
    | operate operation =>
        rcases items with _ | ⟨right, _ | ⟨left, below⟩⟩
        · cases stepped
        · cases stepped
        · rw [step_operate] at stepped
          obtain ⟨result, applied, stepped⟩ := bind_eq_ok.mp stepped
          cases stepped
          exact .operate (mapError_eq_ok.mp applied)
    | negate =>
        rcases items with _ | ⟨operand, below⟩
        · cases stepped
        · rw [step_negate] at stepped
          obtain ⟨result, applied, stepped⟩ := bind_eq_ok.mp stepped
          cases stepped
          exact .negate (mapError_eq_ok.mp applied)
    | dup =>
        cases items <;> cases stepped
        exact .dup
    | pop =>
        cases items <;> cases stepped
        exact .pop
    | label id =>
        cases stepped
        exact .label
    | jump id =>
        obtain ⟨index, found, rfl⟩ := goTo_eq_ok.mp stepped
        exact .jump found
    | popJumpIf expected id =>
        rcases items with _ | ⟨condition, below⟩
        · cases stepped
        · rw [step_popJumpIf] at stepped
          split at stepped
          · next met =>
              obtain ⟨index, found, rfl⟩ := goTo_eq_ok.mp stepped
              exact .jumpIf met found
          · next unmet =>
              cases stepped
              exact .goOn unmet
  · intro executes
    cases executes with
    | constant pooled =>
        simp only [step, pooled]
        rfl
    | operate applied => rw [step_operate, applied, mapError_ok, ok_bind]
    | negate applied => rw [step_negate, applied, mapError_ok, ok_bind]
    | dup | pop | label => rfl
    | jump found => exact goTo_eq_ok.mpr ⟨_, found, rfl⟩
    | jumpIf met found =>
        rw [step_popJumpIf, if_pos met]
        exact goTo_eq_ok.mpr ⟨_, found, rfl⟩
    | goOn unmet => rw [step_popJumpIf, if_neg unmet]

end Code

/-! ### Faults of a step -/

/-- What a fault may be about: the labels of the code, what an instruction is applied to, or the
limit of the run. -/
inductive Concern where
  | labels
  | operands
  | limit
deriving DecidableEq, Repr

/-- What a fault is about. -/
def MachineFault.concern : MachineFault → Concern
  | .duplicateLabel _ | .unknownLabel _ => .labels
  | .missingOperand | .nothingToDuplicate | .invalidConstant | .binaryFault _ _ _ _
  | .negateFault _ _ => .operands
  | .stepLimit => .limit

namespace Code

variable {code : Code}

/-- A jump fails if its label is nowhere. -/
theorem goTo_eq_error {id : Nat} {stack : Stack Value} {fault : MachineFault} :
    code.goTo id stack = .error fault ↔ code.target? id = none ∧ fault = .unknownLabel id := by
  unfold goTo
  cases code.target? id with
  | none => simp [eq_comm]
  | some index => simp

/-- A step that fails does so for its operands or its constant, or because its label is nowhere in
the code. -/
theorem step_eq_error {instr : Instr Nat} {s : State} {fault : MachineFault}
    (failed : code.step instr s = .error fault) :
    fault.concern = .operands ∨
      ∃ id, instr.jump? = some id ∧ code.target? id = none ∧ fault = .unknownLabel id := by
  obtain ⟨next, ⟨items⟩⟩ := s
  cases instr with
  | constant index =>
      simp only [step] at failed
      split at failed <;> cases failed
      exact .inl rfl
  | operate operation =>
      left
      rcases items with _ | ⟨right, _ | ⟨left, below⟩⟩
      · cases failed
        rfl
      · cases failed
        rfl
      · rw [step_operate] at failed
        generalize Value.binary (operation.operatorFor left right) left right = result at failed
        cases result <;> cases failed
        rfl
  | negate =>
      left
      rcases items with _ | ⟨operand, below⟩
      · cases failed
        rfl
      · rw [step_negate] at failed
        generalize Value.unary .minus operand = result at failed
        cases result <;> cases failed
        rfl
  | dup | pop =>
      cases items <;> cases failed
      exact .inl rfl
  | label id => cases failed
  | jump id =>
      obtain ⟨unknown, rfl⟩ := goTo_eq_error.mp failed
      exact .inr ⟨id, rfl, unknown, rfl⟩
  | popJumpIf expected id =>
      rcases items with _ | ⟨condition, below⟩
      · cases failed
        exact .inl rfl
      · rw [step_popJumpIf] at failed
        split at failed
        · obtain ⟨unknown, rfl⟩ := goTo_eq_error.mp failed
          exact .inr ⟨id, rfl, unknown, rfl⟩
        · cases failed

/-! ### Runs in steps -/

/-- Behind the last instruction a run ends with what is on the stack. -/
theorem runFrom_of_none {limit : Nat} {s : State} (ended : code.instrs[s.next]? = none) :
    code.runFrom limit s = .ok s.stack.toList := by
  unfold runFrom
  simp only [ended]

/-- With a step left, a run before its end is that step and the run from there on. -/
theorem runFrom_of_some {limit : Nat} {s : State} {instr : Instr Nat}
    (current : code.instrs[s.next]? = some instr) :
    code.runFrom (limit + 1) s = code.step instr s >>= code.runFrom limit := by
  unfold runFrom
  simp only [current]
  cases code.step instr s <;> rfl

/-- Without a step left, a run stops at the instruction before it. -/
theorem runFrom_zero_of_some {s : State} {instr : Instr Nat}
    (current : code.instrs[s.next]? = some instr) : code.runFrom 0 s = .error .stepLimit := by
  unfold runFrom
  simp only [current]

theorem visitedFrom_of_none {s : State} (ended : code.instrs[s.next]? = none) (limit : Nat) :
    code.visitedFrom limit s = [] := by
  cases limit with
  | zero => rfl
  | succ limit => simp only [visitedFrom, ended]

/-- The instruction that fails is the last to be executed. -/
theorem visitedFrom_of_error {s : State} {instr : Instr Nat} {fault : MachineFault}
    (current : code.instrs[s.next]? = some instr) (failed : code.step instr s = .error fault)
    (limit : Nat) :
    code.visitedFrom (limit + 1) s = [(instr, s)] := by
  simp only [visitedFrom, current, failed]

/-- An instruction is executed before those of the state it leads to. -/
theorem visitedFrom_of_ok {s after : State} {instr : Instr Nat}
    (current : code.instrs[s.next]? = some instr) (stepped : code.step instr s = .ok after)
    (limit : Nat) :
    code.visitedFrom (limit + 1) s = (instr, s) :: code.visitedFrom limit after := by
  simp only [visitedFrom, current, stepped]

/-! ### Reached states -/

/-- The states that a run of the code comes to. It takes its first step once the labels are
checked. -/
inductive Reached (code : Code) : State → Prop where
  | initial (checked : code.labelFault? = none) : Reached code .initial
  | step {s after : State} {instr : Instr Nat} (reached : Reached code s)
      (current : code.instrs[s.next]? = some instr) (stepped : code.step instr s = .ok after) :
      Reached code after

/-- What holds of the first state and is kept by every rule holds of all reached states. -/
theorem Reached.keeps {P : State → Prop} (first : P .initial)
    (kept : ∀ instr s after, code.Executes instr s after → P s → P after) {s : State}
    (reached : code.Reached s) : P s := by
  induction reached with
  | initial _ => exact first
  | step _ _ stepped inductionHypothesis =>
      exact kept _ _ _ (step_eq_ok_iff.mp stepped) inductionHypothesis

/-- From a reached state on, a run ends in a reached state behind the last instruction, by the fault
of a reached state, or at its limit. -/
theorem runFrom_cases (limit : Nat) {s : State} (reached : code.Reached s) :
    (∃ last, code.Reached last ∧ code.instrs[last.next]? = none ∧
        code.runFrom limit s = .ok last.stack.toList) ∨
      (∃ last instr fault, code.Reached last ∧ code.instrs[last.next]? = some instr ∧
        code.step instr last = .error fault ∧ code.runFrom limit s = .error fault) ∨
      code.runFrom limit s = .error .stepLimit := by
  induction limit generalizing s with
  | zero =>
      cases current : code.instrs[s.next]? with
      | none => exact .inl ⟨s, reached, current, runFrom_of_none current⟩
      | some instr => exact .inr (.inr (runFrom_zero_of_some current))
  | succ limit inductionHypothesis =>
      cases current : code.instrs[s.next]? with
      | none => exact .inl ⟨s, reached, current, runFrom_of_none current⟩
      | some instr =>
          rw [runFrom_of_some current]
          cases stepped : code.step instr s with
          | error fault => exact .inr (.inl ⟨s, instr, fault, reached, current, stepped, rfl⟩)
          | ok after =>
              rw [ok_bind]
              exact inductionHypothesis (reached.step current stepped)

/-- What a run ends with lies on the stack of a reached state. -/
theorem exists_reached_of_run {limit : Nat} {values : List Value}
    (ran : code.run limit = .ok values) :
    ∃ last, code.Reached last ∧ last.stack.toList = values := by
  unfold run at ran
  split at ran
  · cases ran
  · next checked =>
      rcases runFrom_cases limit (.initial checked) with
        ⟨last, reached, _, ended⟩ | ⟨_, _, _, _, _, _, ended⟩ | ended
      · rw [ended] at ran
        cases ran
        exact ⟨last, reached, rfl⟩
      · rw [ended] at ran
        cases ran
      · rw [ended] at ran
        cases ran

/-- What a run executes, it executes in a reached state. -/
theorem Reached.of_mem_visitedFrom {limit : Nat} {s : State} (reached : code.Reached s)
    {entry : Instr Nat × State} (member : entry ∈ code.visitedFrom limit s) :
    code.Reached entry.2 := by
  induction limit generalizing s with
  | zero => cases member
  | succ limit inductionHypothesis =>
      cases current : code.instrs[s.next]? with
      | none =>
          rw [visitedFrom_of_none current] at member
          cases member
      | some instr =>
          cases stepped : code.step instr s with
          | error fault =>
              rw [visitedFrom_of_error current stepped, List.mem_singleton] at member
              rw [member]
              exact reached
          | ok after =>
              rw [visitedFrom_of_ok current stepped] at member
              rcases List.mem_cons.mp member with rfl | later
              · exact reached
              · exact inductionHypothesis (reached.step current stepped) later

/-- A state in which an instruction is executed is reached. -/
theorem Reached.of_mem_visited {limit : Nat} {entry : Instr Nat × State}
    (member : entry ∈ code.visited limit) : code.Reached entry.2 := by
  unfold visited at member
  split at member
  · cases member
  · next checked => exact (Reached.initial checked).of_mem_visitedFrom member

/-- Code that goes round a loop: it takes one half from three as often as something is left. -/
def countdown : Code :=
  ⟨[.constant 0, .label 0, .constant 1, .operate .subtract, .dup, .popJumpIf true 0],
    [.float 3.0, .float 0.5], [⟨1, 6⟩]⟩

end Code

end Reckon
