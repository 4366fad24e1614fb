/-
Module: Reckon.Evaluate
Purpose: From the text of a program to its code and to its values.
Main exports: compile, evaluate, compileEvents, evaluateEvents
-/
import Reckon.Event

namespace Reckon

/-- Compiles a program. Of all complaints the first is the failure, those about its words before
those about its grammar. -/
def compile (source : String) : Except Failure Code :=
  let scanned := scan source
  match scanned.complaint? with
  | some diagnostic => .error (.refused diagnostic)
  | none =>
    let parsed := Grammar.parse scanned.tokens
    match parsed.complaint? with
    | some diagnostic => .error (.refused diagnostic)
    | none => parsed.block.lower.mapError .blocked

/-- Runs compiled code, which never executes an instruction twice. -/
def Code.execute (code : Code) : Except MachineFault (List Value) :=
  code.run code.instrs.length

/-- The values of a program, one for each of its statements. -/
def evaluate (source : String) : Except Failure (List Value) := do
  let code ← compile source
  code.execute.mapError .failed

/-- The events of compiling a program. -/
def compileEvents (options : Options) (source : String) : List Event :=
  let scanned := scan source
  let parsed := Grammar.parse scanned.tokens
  let lowered := parsed.block.lower
  let listed :=
    match lowered with
    | .ok code => if options.debug then [.compiled code] else []
    | .error _ => []
  scanned.events ++
    (if scanned.complaint?.isSome then []
    else
      parsed.events ++
        (if parsed.complaint?.isSome then [] else lowerEvents lowered ++ listed))

/-- The events of evaluating a program. -/
def evaluateEvents (options : Options) (source : String) : List Event :=
  compileEvents options source ++
    (match compile source with
    | .ok code => code.runEvents options.trace code.instrs.length
    | .error _ => [])

end Reckon
