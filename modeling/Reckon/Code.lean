/-
Module: Reckon.Code
Purpose: Code for a stack machine: instructions, a pool of constants that they refer to by index,
  and the line of the program that each instruction comes from.
Main exports: Operation, Instr, LineRun, Code, Code.write, Code.addConstant, Code.lineAt,
  Code.target?
-/
import Reckon.Arithmetic
import Reckon.Span

namespace Reckon

/-! ### Instructions -/

/-- What an instruction does to two operands. -/
inductive Operation where
  | add
  | subtract
  | multiply
  | divide
  | floorDivide
  | remainder
  | power
  | shiftLeft
  | shiftRight
  | bitAnd
  | bitOr
  | bitXor
  | equal
  | notEqual
  | greater
  | greaterEqual
  | less
  | lessEqual
  | same
  | notSame
deriving DecidableEq, Repr, Inhabited

namespace Operation

/-- The operator that an operation applies. -/
def operator : Operation → BinaryOp
  | .add => .plus
  | .subtract => .minus
  | .multiply => .times
  | .divide => .divide
  | .floorDivide => .floorDivide
  | .remainder => .remainder
  | .power => .power
  | .shiftLeft => .shiftLeft
  | .shiftRight => .shiftRight
  | .bitAnd => .bitAnd
  | .bitOr => .bitOr
  | .bitXor => .bitXor
  | .equal => .equal
  | .notEqual => .notEqual
  | .greater => .greater
  | .greaterEqual => .greaterEqual
  | .less => .less
  | .lessEqual => .lessEqual
  | .same => .same
  | .notSame => .notSame

/-- The logical operator that a bitwise operation applies to two booleans instead. -/
def logical? : Operation → Option BinaryOp
  | .bitAnd => some .andAnd
  | .bitOr => some .orOr
  | .bitXor => some .xorWord
  | _ => none

/-- The operator that an operation applies to two given operands. -/
def operatorFor (op : Operation) (left right : Value) : BinaryOp :=
  match op.logical?, left, right with
  | some logical, .bool _, .bool _ => logical
  | _, _, _ => op.operator

/-- The name of an operation in listings. -/
def mnemonic : Operation → String
  | .add => "OP_ADD"
  | .subtract => "OP_SUBTRACT"
  | .multiply => "OP_MULTIPLY"
  | .divide => "OP_TRUE_DIVIDE"
  | .floorDivide => "OP_FLOOR_DIVIDE"
  | .remainder => "OP_REMAINDER"
  | .power => "OP_POWER"
  | .shiftLeft => "OP_LEFT_SHIFT"
  | .shiftRight => "OP_RIGHT_SHIFT"
  | .bitAnd => "OP_BIT_AND"
  | .bitOr => "OP_BIT_OR"
  | .bitXor => "OP_BIT_XOR"
  | .equal => "OP_EQUAL"
  | .notEqual => "OP_NOT_EQUAL"
  | .greater => "OP_GREATER"
  | .greaterEqual => "OP_GREATER_EQUAL"
  | .less => "OP_LESS"
  | .lessEqual => "OP_LESS_EQUAL"
  | .same => "OP_IS"
  | .notSame => "OP_IS_NOT"

end Operation

/-- The operation that an operator is carried out by. The logical operators share the bitwise
operations, and coalescing is no operation on two values. -/
def BinaryOp.operation? : BinaryOp → Option Operation
  | .plus => some .add
  | .minus => some .subtract
  | .times => some .multiply
  | .divide => some .divide
  | .floorDivide => some .floorDivide
  | .remainder => some .remainder
  | .power => some .power
  | .shiftLeft => some .shiftLeft
  | .shiftRight => some .shiftRight
  | .greater => some .greater
  | .greaterEqual => some .greaterEqual
  | .less => some .less
  | .lessEqual => some .lessEqual
  | .equal => some .equal
  | .notEqual => some .notEqual
  | .same => some .same
  | .notSame => some .notSame
  | .bitAnd | .andAnd | .andWord => some .bitAnd
  | .bitOr | .orOr => some .bitOr
  | .bitXor | .xorWord => some .bitXor
  | .coalesce => none

/-- Instructions over constants given by `κ`: by their value, or by their index in a pool. -/
inductive Instr (κ : Type) where
  /-- Pushes a constant. -/
  | constant (c : κ)
  /-- Replaces the two topmost values by the result of an operation on them. -/
  | operate (op : Operation)
  /-- Negates the topmost value. -/
  | negate
  /-- Pushes the topmost value once more. -/
  | dup
  /-- Drops the topmost value. -/
  | pop
  /-- Marks a place to jump to, and does nothing. -/
  | label (id : Nat)
  /-- Goes on at a label. -/
  | jump (id : Nat)
  /-- Drops the topmost value, and goes on at a label if it counts as `expected`. -/
  | popJumpIf (expected : Bool) (id : Nat)
deriving DecidableEq, Repr, Inhabited

namespace Instr

/-- The name of an instruction in listings. -/
def mnemonic {κ : Type} : Instr κ → String
  | .constant _ => "OP_CONSTANT"
  | .operate op => op.mnemonic
  | .negate => "OP_NEGATE"
  | .dup => "OP_DUP"
  | .pop => "OP_POP"
  | .label _ => "OP_LABEL"
  | .jump _ => "OP_JUMP"
  | .popJumpIf true _ => "OP_POP_JUMP_IF_TRUE"
  | .popJumpIf false _ => "OP_POP_JUMP_IF_FALSE"

/-- The same instruction over other constants. -/
def map {κ μ : Type} (f : κ → μ) : Instr κ → Instr μ
  | .constant c => .constant (f c)
  | .operate op => .operate op
  | .negate => .negate
  | .dup => .dup
  | .pop => .pop
  | .label id => .label id
  | .jump id => .jump id
  | .popJumpIf expected id => .popJumpIf expected id

/-- The constant that an instruction pushes. -/
def constant? {κ : Type} : Instr κ → Option κ
  | .constant c => some c
  | _ => none

/-- The label that an instruction defines. -/
def label? {κ : Type} : Instr κ → Option Nat
  | .label id => some id
  | _ => none

/-- The label that an instruction may go on at. -/
def jump? {κ : Type} : Instr κ → Option Nat
  | .jump id => some id
  | .popJumpIf _ id => some id
  | _ => none

end Instr

/-! ### Lines -/

/-- A number of instructions in a row that come from one line. -/
structure LineRun where
  line : Int
  count : Nat
deriving DecidableEq, Repr, Inhabited

namespace LineRun

/-- The runs with one more instruction behind them. It joins the last run if it comes from the same
line or from no place in the text. -/
def push (span : Span) : List LineRun → List LineRun
  | [] => [⟨span.line, 1⟩]
  | [last] =>
    if span = .endOfInput ∨ last.line = span.line then [⟨last.line, last.count + 1⟩]
    else [last, ⟨span.line, 1⟩]
  | first :: second :: rest => first :: push span (second :: rest)

/-- The line of the instruction at an index; behind the last one it is `-1`. -/
def lineAt : List LineRun → Nat → Int
  | [], _ => -1
  | run :: rest, index => if index < run.count then run.line else lineAt rest (index - run.count)

end LineRun

/-! ### Code -/

/-- Code for the machine. -/
structure Code where
  instrs : List (Instr Nat)
  constants : List Value
  lines : List LineRun
deriving DecidableEq, Repr, Inhabited

namespace Code

/-- Code without instructions and constants. -/
def empty : Code :=
  ⟨[], [], []⟩

/-- Adds an instruction that comes from the given place. -/
def write (code : Code) (instr : Instr Nat) (span : Span) : Code :=
  ⟨code.instrs ++ [instr], code.constants, LineRun.push span code.lines⟩

/-- Adds a constant to the pool. Its index is the number of constants before it. -/
def addConstant (code : Code) (v : Value) : Code :=
  ⟨code.instrs, code.constants ++ [v], code.lines⟩

/-- The line of the instruction at an index. -/
def lineAt (code : Code) (index : Nat) : Int :=
  LineRun.lineAt code.lines index

/-- The index of the first instruction that defines a label. -/
def target? (code : Code) (id : Nat) : Option Nat :=
  code.instrs.findIdx? (·.label? == some id)

end Code

end Reckon
