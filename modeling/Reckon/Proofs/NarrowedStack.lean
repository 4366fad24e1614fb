/-
Module: Reckon.Proofs.NarrowedStack
Purpose: Every number on the stack is written in one way. Whatever the code and its constants are, a
  float that equals an integer in range never lies on the stack: constants are narrowed when they
  are pushed, and operators narrow their results. Nothing is used of floats but that narrowing twice
  is narrowing once.
Main exports: State.Narrowed, Code.Executes.narrowed, Instr.AppliesTo, Code.stack_narrowed
-/
import Reckon.Proofs.Folding
import Reckon.Proofs.Steps

namespace Reckon

/-- Narrowing changes no value on the stack. -/
def State.Narrowed (s : State) : Prop :=
  ∀ v ∈ s.stack.items, v.narrow = v

namespace Code

variable {code : Code} {s : State}

/-- Each rule keeps the stack narrowed: what it pushes is narrowed, and what it leaves was there
before. -/
theorem Executes.narrowed {instr : Instr Nat} {after : State}
    (executes : code.Executes instr s after) (narrowed : s.Narrowed) : after.Narrowed := by
  cases executes with
  | constant _ => exact List.forall_mem_cons.mpr ⟨Value.narrow_narrow _, narrowed⟩
  | operate applied =>
      have below := (List.forall_mem_cons.mp (List.forall_mem_cons.mp narrowed).2).2
      exact List.forall_mem_cons.mpr ⟨Value.narrow_of_binary applied, below⟩
  | negate applied =>
      have below := (List.forall_mem_cons.mp narrowed).2
      exact List.forall_mem_cons.mpr ⟨Value.narrow_of_unary applied, below⟩
  | dup =>
      have top := (List.forall_mem_cons.mp narrowed).1
      exact List.forall_mem_cons.mpr ⟨top, narrowed⟩
  | pop | jumpIf _ _ | goOn _ => exact (List.forall_mem_cons.mp narrowed).2
  | label | jump _ => exact narrowed

/-- So it is narrowed in every state that a run comes to. -/
theorem Reached.narrowed (reached : code.Reached s) : s.Narrowed := by
  apply reached.keeps
  case first =>
    intro v member
    cases member
  case kept =>
    intro instr s after executes narrowed
    exact executes.narrowed narrowed

end Code

/-- The instruction applies an operator to a value that it finds on the stack. -/
inductive Instr.AppliesTo : Instr Nat → Stack Value → Value → Prop where
  | left {operation : Operation} {left right : Value} {below : List Value} :
      AppliesTo (.operate operation) ⟨right :: left :: below⟩ left
  | right {operation : Operation} {left right : Value} {below : List Value} :
      AppliesTo (.operate operation) ⟨right :: left :: below⟩ right
  | operand {operand : Value} {below : List Value} : AppliesTo .negate ⟨operand :: below⟩ operand

/-- What an instruction applies to lies on the stack. -/
theorem Instr.AppliesTo.mem {instr : Instr Nat} {stack : Stack Value} {v : Value}
    (applies : instr.AppliesTo stack v) : v ∈ stack.items := by
  cases applies with
  | left => exact List.mem_cons_of_mem _ List.mem_cons_self
  | right => exact List.mem_cons_self
  | operand => exact List.mem_cons_self

namespace Code

/-- Whatever code is run, narrowing changes no value on the stack, after any number of steps. Hence
it changes no value that a run ends with, and an operator is never applied to a float that narrowing
would make an integer. -/
theorem stack_narrowed (code : Code) :
    (∀ s, code.Reached s → ∀ v ∈ s.stack.items, v.narrow = v) ∧
      (∀ limit values, code.run limit = .ok values → ∀ v ∈ values, v.narrow = v) ∧
      ∀ limit, ∀ entry ∈ code.visited limit, ∀ x, entry.1.AppliesTo entry.2.stack (.float x) →
        ∀ n, (Value.float x).narrow ≠ .integer n := by
  refine ⟨fun s reached => reached.narrowed, ?_, ?_⟩
  · intro limit values ran v member
    obtain ⟨last, reached, rfl⟩ := exists_reached_of_run ran
    exact reached.narrowed v (List.mem_reverse.mp member)
  · intro limit entry member x applies n
    rw [(Reached.of_mem_visited member).narrowed _ applies.mem]
    exact nofun

/-- The run counts down from three by halves. Every second difference is a whole number, and lies on
the stack as an integer. -/
theorem stack_narrowed_countdown :
    countdown.Reached ⟨3, ⟨[.float 0.5, .integer 2]⟩⟩ ∧ (Value.float 0.5).narrow = .float 0.5 ∧
      (Instr.operate .subtract, State.mk 3 ⟨[.float 0.5, .integer 2]⟩) ∈ countdown.visited 40 ∧
      (∀ n, (Value.float 0.5).narrow ≠ .integer n) ∧
      countdown.run 40 = .ok [.integer 0] ∧ (Value.integer 0).narrow = .integer 0 := by
  have visited : (Instr.operate .subtract, State.mk 3 ⟨[.float 0.5, .integer 2]⟩) ∈
      countdown.visited 40 := by
    decide +kernel
  have reached := Reached.of_mem_visited visited
  have ran : countdown.run 40 = .ok [.integer 0] := eq_ok_of_toOption (by decide +kernel)
  obtain ⟨ofReached, ofRun, ofOperands⟩ := stack_narrowed countdown
  exact ⟨reached, ofReached _ reached _ List.mem_cons_self, visited,
    ofOperands 40 _ visited 0.5 .right, ran, ofRun 40 _ ran _ List.mem_cons_self⟩

end Code

end Reckon
