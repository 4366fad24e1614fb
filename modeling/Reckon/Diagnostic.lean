/-
Module: Reckon.Diagnostic
Purpose: Why a program is refused, and where. A complaint is a cause; its severity and its wording
  follow from it.
Main exports: Severity, Complaint, Complaint.severity, Complaint.text, Diagnostic, Diagnostic.render
-/
import Reckon.Arithmetic
import Reckon.Token

namespace Reckon

/-- The three classes of complaints. -/
inductive Severity where
  /-- The text cannot be divided into words. -/
  | syntaxError
  /-- The program has a meaning, but hardly the one that was meant. -/
  | syntaxWarning
  /-- The words do not form a program, or a part of it can never be evaluated. -/
  | parseException
deriving DecidableEq, Repr, Inhabited

/-- The name of a severity. -/
def Severity.name : Severity → String
  | .syntaxError => "SyntaxError"
  | .syntaxWarning => "SyntaxWarning"
  | .parseException => "ParseException"

/-- Why a program is refused. -/
inductive Complaint where
  /-- A number with more than one point. -/
  | malformedNumber
  /-- A string without its closing quote. -/
  | unterminatedString
  /-- A token of the given kind is missing. -/
  | missing (kind : TokenKind)
  /-- Parentheses nested beyond the limit. -/
  | deepParentheses
  /-- Conditional expressions nested beyond the limit. -/
  | deepConditionals
  /-- An integer literal out of range. -/
  | integerTooLarge (lexeme : String)
  /-- A float literal that is no number. -/
  | malformedFloat (lexeme : String)
  /-- A token with which no expression begins. -/
  | unknownExpression (kind : TokenKind)
  /-- A binary operator that cannot be applied to its operands. -/
  | binaryFault (fault : Fault) (op : BinaryOp) (left right : ValueKind)
  /-- A unary operator that cannot be applied to its operand. -/
  | unaryFault (fault : Fault) (op : UnaryOp) (operand : ValueKind)
  /-- Literals compared by identity, or by its negation, where equality was probably meant. -/
  | identityOfLiteral (negated : Bool) (left : ValueKind)
  /-- A condition that is neither true nor false. -/
  | conditionNotBool (kind : ValueKind)
  /-- A complaint that came with the tree. -/
  | stated (severity : Severity) (text : String)
deriving DecidableEq, Repr, Inhabited

namespace Complaint

/-- The class of a complaint. -/
def severity : Complaint → Severity
  | .malformedNumber | .unterminatedString => .syntaxError
  | .identityOfLiteral _ _ => .syntaxWarning
  | .stated severity _ => severity
  | _ => .parseException

/-- The wording of a complaint. -/
def text : Complaint → String
  | .malformedNumber => "invalid syntax. Perhaps you forgot a comma?"
  | .unterminatedString => "unterminated string literal"
  | .missing kind => "There should be " ++ kind.article ++ " " ++ kind.name
  | .deepParentheses => "too many nested parentheses"
  | .deepConditionals => "too many nested conditional expressions"
  | .integerTooLarge lexeme => "Integer literal " ++ lexeme ++ " is too large"
  | .malformedFloat lexeme => "Float literal " ++ lexeme ++ " is malformed"
  | .unknownExpression kind => "Unknown expression: " ++ kind.name
  | .binaryFault fault op left right => fault.binaryMessage op left right
  | .unaryFault fault op operand => fault.unaryMessage op operand
  | .identityOfLiteral false left =>
    "\"is\" with '" ++ left.name ++ "' literal. Did you mean \"==\"?"
  | .identityOfLiteral true left =>
    "\"is not\" with '" ++ left.name ++ "' literal. Did you mean \"!=\"?"
  | .conditionNotBool kind => "condition value should be True or False but got " ++ kind.name
  | .stated _ text => text

end Complaint

/-- A complaint and the place it is about. -/
structure Diagnostic where
  complaint : Complaint
  span : Span
deriving DecidableEq, Repr, Inhabited

/-- A diagnostic as one line: its class and its wording. -/
def Diagnostic.render (d : Diagnostic) : String :=
  d.complaint.severity.name ++ ": " ++ d.complaint.text

end Reckon
