/-
Module: Reckon.Grammar.Program
Purpose: Reading a program: expressions one after another, each with at most one semicolon behind
  it. Every expression is folded as soon as it is read, and the first that is malformed, or that
  holds a part which can never be evaluated, ends the reading.
Main exports: Ending, Parsed, parse, Parsed.block, Parsed.complaint?
-/
import Reckon.Grammar.Expression
import Reckon.Stmt

namespace Reckon.Grammar

/-- How the reading of a program ends. -/
inductive Ending where
  /-- All tokens were read. -/
  | complete
  /-- The tokens form no expression. -/
  | refused (diagnostic : Diagnostic)
  /-- The folded expression has an error node. -/
  | faulty (folded : Expr) (diagnostic : Diagnostic)
deriving DecidableEq, Repr, Inhabited

/-- The folded expressions of a program up to the end of its reading. -/
structure Parsed where
  statements : List Expr
  ending : Ending
deriving DecidableEq, Repr, Inhabited

/-- Reads an expression and passes over a semicolon behind it. -/
def statement : Parse := fun tokens => do
  let (e, rest) ← expression nestingLimit tokens
  match take? .semicolon rest with
  | some (_, behind) => .ok (e, behind)
  | none => .ok (e, rest)

/-- Whether a program ends here. -/
def atEnd (tokens : List Token) : Bool :=
  match tokens with
  | [] => true
  | token :: _ => token.kind == .endOfInput

/-- Reads at most `rounds` statements. Every statement takes at least one token, so there are no
more rounds than tokens. -/
def statements : (rounds : Nat) → List Token → Parsed
  | 0, _ => ⟨[], .complete⟩
  | rounds + 1, tokens =>
    if atEnd tokens then ⟨[], .complete⟩
    else
      match statement tokens with
      | .error diagnostic => ⟨[], .refused diagnostic⟩
      | .ok (e, rest) =>
        let folded := e.fold
        match folded.firstError? with
        | some diagnostic => ⟨[], .faulty folded diagnostic⟩
        | none =>
          let others := statements rounds rest
          ⟨folded :: others.statements, others.ending⟩

/-- Reads a program. -/
def parse (tokens : List Token) : Parsed :=
  statements tokens.length tokens

namespace Parsed

/-- The statements of a program as one block. -/
def block (p : Parsed) : Stmt :=
  .block (p.statements.map .expression)

/-- The diagnostic that ended the reading, if one did. -/
def complaint? (p : Parsed) : Option Diagnostic :=
  match p.ending with
  | .complete => none
  | .refused diagnostic => some diagnostic
  | .faulty _ diagnostic => some diagnostic

end Parsed

end Reckon.Grammar
