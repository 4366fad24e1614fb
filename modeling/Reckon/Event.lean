/-
Module: Reckon.Event
Purpose: What is logged on the way from a text to its values.
Main exports: Event, Event.level, Event.message, and the events of each stage
-/
import Reckon.Code.Listing
import Reckon.Failure
import Reckon.Grammar.Program
import Reckon.Options
import Reckon.Token.Scan

namespace Reckon

/-- How much an event matters. -/
inductive LogLevel where
  | error
  | debug
  | trace
deriving DecidableEq, Repr, Inhabited

/-- The name of a level. -/
def LogLevel.name : LogLevel → String
  | .error => "ERROR"
  | .debug => "DEBUG"
  | .trace => "TRACE"

/-- What can be logged. -/
inductive Event where
  | scanned (tokens errors : Nat)
  | folded (span : Span)
  | parsed (statements errors : Nat)
  | errorNode (diagnostic : Diagnostic)
  | lowered (instructions constants : Nat)
  | compiled (code : Code)
  | stepping (instr : Instr Nat) (state : State)
  | executed (instructions values : Nat)
deriving DecidableEq, Repr, Inhabited

/-- The text of a stack, from the bottom up. -/
def Stack.inspect (s : Stack Value) : String :=
  "Stack \x7b items: [" ++ ", ".intercalate (s.toList.map Value.inspect) ++ "] \x7d"

namespace Event

/-- The level of an event. -/
def level : Event → LogLevel
  | .errorNode _ => .error
  | .stepping _ _ => .trace
  | _ => .debug

/-- The wording of an event. -/
def message : Event → String
  | .scanned tokens errors =>
    "scanned " ++ toString tokens ++ " tokens with " ++ toString errors ++ " errors"
  | .folded span => "folded statement at " ++ span.describe
  | .parsed statements errors =>
    "parsed " ++ toString statements ++ " statements with " ++ toString errors ++ " errors"
  | .errorNode diagnostic => "error node reached the code generator: " ++ diagnostic.render
  | .lowered instructions constants =>
    "lowered to " ++ toString instructions ++ " instructions and " ++ toString constants ++
      " constants"
  | .compiled code => "compiled chunk:\n" ++ code.listing
  | .stepping instr state =>
    Text.alignRight '0' 4 (toString state.next) ++ " " ++ Text.alignLeft 24 instr.mnemonic ++ " " ++
      state.stack.inspect
  | .executed instructions values =>
    "executed " ++ toString instructions ++ " instructions, " ++ toString values ++ " values left"

end Event

/-- The events of dividing a text into tokens. -/
def Scanned.events (s : Scanned) : List Event :=
  [.scanned s.tokens.length s.complaint?.toList.length]

/-- The events of folding a statement. -/
def Stmt.foldEvents (s : Stmt) : List Event :=
  s.expressions.map fun e => .folded e.fold.span

/-- The events of reading a program. -/
def Grammar.Parsed.events (p : Parsed) : List Event :=
  let rejected :=
    match p.ending with
    | .faulty folded _ => [folded]
    | _ => []
  ((p.statements ++ rejected).map fun e => Event.folded e.span) ++
    [.parsed p.statements.length p.complaint?.toList.length]

/-- The events of lowering, by its result. -/
def lowerEvents : Except Obstacle Code → List Event
  | .ok code => [.lowered code.instrs.length code.constants.length]
  | .error (.errorNode diagnostic) => [.errorNode diagnostic]
  | .error .coalesceOperator => []

/-- The events of a run. -/
def Code.runEvents (code : Code) (trace : Bool) (limit : Nat) : List Event :=
  let steps :=
    if trace then (code.visited limit).map fun entry => Event.stepping entry.1 entry.2 else []
  match code.run limit with
  | .ok values => steps ++ [.executed code.instrs.length values.length]
  | .error _ => steps

end Reckon
