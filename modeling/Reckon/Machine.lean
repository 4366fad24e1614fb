/-
Module: Reckon.Machine
Purpose: The stack machine. A run first checks the labels of the code and then executes instructions
  until it comes behind the last one; what is on the stack then is its result. Code can loop, so a
  run is given a limit on the number of instructions.
Main exports: Stack, MachineFault, State, Code.labelFault?, Code.step, Code.run, Code.visited
-/
import Reckon.Code

namespace Reckon

/-! ### Stacks -/

/-- A stack, its topmost item first. -/
structure Stack (α : Type) where
  items : List α
deriving DecidableEq, Repr, Inhabited

namespace Stack

variable {α : Type}

/-- The stack without items. -/
def empty : Stack α :=
  ⟨[]⟩

/-- The number of items. -/
def size (s : Stack α) : Nat :=
  s.items.length

/-- Whether there are no items. -/
def isEmpty (s : Stack α) : Bool :=
  s.items.isEmpty

/-- Puts an item on top. -/
def push (s : Stack α) (a : α) : Stack α :=
  ⟨a :: s.items⟩

/-- The topmost item and the stack below it. -/
def pop? (s : Stack α) : Option (α × Stack α) :=
  match s.items with
  | [] => none
  | top :: below => some (top, ⟨below⟩)

/-- The topmost item. -/
def peek? (s : Stack α) : Option α :=
  s.items.head?

/-- The items from the bottom up. -/
def toList (s : Stack α) : List α :=
  s.items.reverse

end Stack

/-! ### Faults -/

/-- Why a run fails. -/
inductive MachineFault where
  | duplicateLabel (id : Nat)
  | unknownLabel (id : Nat)
  /-- An instruction finds too few operands. -/
  | missingOperand
  /-- There is nothing to push once more. -/
  | nothingToDuplicate
  | invalidConstant
  | binaryFault (fault : Fault) (op : BinaryOp) (left right : ValueKind)
  | negateFault (fault : Fault) (operand : ValueKind)
  /-- The run did not end within its limit. -/
  | stepLimit
deriving DecidableEq, Repr, Inhabited

namespace MachineFault

/-- What went wrong. -/
def message : MachineFault → String
  | .duplicateLabel id => "Label L" ++ toString id ++ " is defined more than once."
  | .unknownLabel id => "Jump to the unknown label L" ++ toString id ++ "."
  | .missingOperand | .nothingToDuplicate => "Stack underflow."
  | .invalidConstant => "Invalid constant index in byte code."
  | .binaryFault fault op left right => fault.binaryMessage op left right
  | .negateFault fault operand => fault.unaryMessage .minus operand
  | .stepLimit => "Step limit reached."

/-- What to do about it. -/
def advice : MachineFault → String
  | .duplicateLabel _ => "Make sure that every label in the chunk has a unique id."
  | .unknownLabel _ => "Make sure that every jump targets a label present in the chunk."
  | .missingOperand => "Make sure that every instruction has enough operands on the stack."
  | .nothingToDuplicate => "Make sure that there is a value on the stack before duplicating it."
  | .invalidConstant =>
    "Make sure that you are passing valid constant indices to the virtual machine."
  | .binaryFault _ op _ _ => "Check the types of the operands passed to '" ++ op.name ++ "'."
  | .negateFault _ _ => "Make sure that you only negate numbers."
  | .stepLimit => "Make sure that the code comes to an end."

end MachineFault

/-! ### Labels -/

/-- The first of the ids that occurs among those before it. -/
def firstRepeated? : (seen : List Nat) → List Nat → Option Nat
  | _, [] => none
  | seen, id :: rest => if seen.contains id then some id else firstRepeated? (id :: seen) rest

/-- The fault in the labels of the code: a label defined twice, or else a jump to a label that is
not defined. -/
def Code.labelFault? (code : Code) : Option MachineFault :=
  let labels := code.instrs.filterMap Instr.label?
  match firstRepeated? [] labels with
  | some id => some (.duplicateLabel id)
  | none =>
    ((code.instrs.filterMap Instr.jump?).find? fun id => !labels.contains id).map .unknownLabel

/-! ### Steps -/

/-- A state of the machine: the index of the next instruction, and the stack. -/
structure State where
  next : Nat
  stack : Stack Value
deriving DecidableEq, Repr, Inhabited

namespace State

/-- The state in which every run begins. -/
def initial : State :=
  ⟨0, .empty⟩

/-- Goes on behind the current instruction with another stack. -/
def advance (s : State) (stack : Stack Value) : State :=
  ⟨s.next + 1, stack⟩

end State

/-- Takes the topmost value from a stack. -/
def popValue (stack : Stack Value) : Except MachineFault (Value × Stack Value) :=
  match stack.pop? with
  | some popped => .ok popped
  | none => .error .missingOperand

namespace Code

/-- Goes on at a label. -/
def goTo (code : Code) (id : Nat) (stack : Stack Value) : Except MachineFault State :=
  match code.target? id with
  | some index => .ok ⟨index, stack⟩
  | none => .error (.unknownLabel id)

/-- Executes an instruction. -/
def step (code : Code) (instr : Instr Nat) (s : State) : Except MachineFault State :=
  match instr with
  | .constant index =>
    match code.constants[index]? with
    | some v => .ok (s.advance (s.stack.push v.narrow))
    | none => .error .invalidConstant
  | .operate operation => do
    let (right, stack) ← popValue s.stack
    let (left, stack) ← popValue stack
    let op := operation.operatorFor left right
    match Value.binary op left right with
    | .ok result => .ok (s.advance (stack.push result))
    | .error fault => .error (.binaryFault fault op left.kind right.kind)
  | .negate => do
    let (operand, stack) ← popValue s.stack
    match Value.unary .minus operand with
    | .ok result => .ok (s.advance (stack.push result))
    | .error fault => .error (.negateFault fault operand.kind)
  | .dup =>
    match s.stack.peek? with
    | some top => .ok (s.advance (s.stack.push top))
    | none => .error .nothingToDuplicate
  | .pop => do
    let (_, stack) ← popValue s.stack
    .ok (s.advance stack)
  | .label _ => .ok (s.advance s.stack)
  | .jump id => code.goTo id s.stack
  | .popJumpIf expected id => do
    let (condition, stack) ← popValue s.stack
    if condition.isTruthy = expected then code.goTo id stack else .ok (s.advance stack)

/-! ### Runs -/

/-- Executes at most `limit` instructions from a state on. -/
def runFrom (code : Code) : (limit : Nat) → State → Except MachineFault (List Value)
  | limit, s =>
    match code.instrs[s.next]?, limit with
    | none, _ => .ok s.stack.toList
    | some _, 0 => .error .stepLimit
    | some instr, limit + 1 =>
      match code.step instr s with
      | .error fault => .error fault
      | .ok s => code.runFrom limit s

/-- Runs the code with at most `limit` instructions. The result is the stack from the bottom up. -/
def run (code : Code) (limit : Nat) : Except MachineFault (List Value) :=
  match code.labelFault? with
  | some fault => .error fault
  | none => code.runFrom limit .initial

/-- The instructions that a run executes, each with the state before it. -/
def visitedFrom (code : Code) : (limit : Nat) → State → List (Instr Nat × State)
  | 0, _ => []
  | limit + 1, s =>
    match code.instrs[s.next]? with
    | none => []
    | some instr =>
      match code.step instr s with
      | .error _ => [(instr, s)]
      | .ok after => (instr, s) :: code.visitedFrom limit after

/-- The instructions that a run of the code executes, each with the state before it. -/
def visited (code : Code) (limit : Nat) : List (Instr Nat × State) :=
  match code.labelFault? with
  | some _ => []
  | none => code.visitedFrom limit .initial

end Code

end Reckon
