/-
Module: Reckon.Grammar.Expression
Purpose: Reading an expression from tokens. From the loosest to the tightest, an expression is a
  conditional, a chain of each level of binary operators, a sign, and a literal or a group in
  parentheses. A group and the branches of a conditional are expressions again; how deep these may
  nest is limited, and the recursion goes by the depth that is left.
Main exports: Parse, chain, expression, nestingLimit, parseExpression
-/
import Reckon.Grammar.Level
import Reckon.Number.Numeral

namespace Reckon.Grammar

/-- Reads a tree from the head of the tokens, and gives the tokens behind it. -/
abbrev Parse := List Token → Except Diagnostic (Expr × List Token)

/-- The first token and those behind it, if the first is of the given kind. -/
def take? (kind : TokenKind) : List Token → Option (Token × List Token)
  | [] => none
  | token :: rest => if token.kind = kind then some (token, rest) else none

/-! ### Literals -/

/-- The value that a token stands for. A token without a value is read by its characters. -/
def literal (token : Token) : Except Complaint Value :=
  let text := token.value.getD token.lexeme
  match token.kind with
  | .integer =>
    match (readInt? text.toList).bind int64? with
    | some n => .ok (.integer n)
    | none => .error (.integerTooLarge token.lexeme)
  | .float =>
    match readFloat? text.toList with
    | some x => .ok (.float x)
    | none => .error (.malformedFloat token.lexeme)
  | .string => .ok (.string text)
  | .bool => .ok (.bool (text == "True"))
  | .null => .ok .null
  | kind => .error (.unknownExpression kind)

/-- Reads a literal. Where there is no token, the end of the input stands. -/
def leaf : Parse := fun tokens =>
  let token := tokens.head?.getD .endOfInput
  match literal token with
  | .ok v => .ok (.value token.span v, tokens.tail)
  | .error complaint => .error ⟨complaint, token.span⟩

/-! ### Groups and signs -/

/-- Reads a literal or a group in parentheses; `nested` reads what stands in a group, unless the
groups are too deep already. -/
def primary (nested : Option Parse) : Parse := fun tokens =>
  match take? .leftParen tokens with
  | none => leaf tokens
  | some (paren, inside) =>
    match nested with
    | none => .error ⟨.deepParentheses, paren.span⟩
    | some nested => do
      let (e, rest) ← nested inside
      match take? .rightParen rest with
      | some (_, behind) => .ok (e, behind)
      | none =>
        let span := (rest.head?.map Token.span).getD .endOfInput
        .error ⟨.missing .rightParen, .point span.stop span.line span.column⟩

/-- Whether a token is the integer literal `9223372036854775808`, which is in range behind a minus
sign only. -/
def isLeastMagnitude (token : Token) : Bool :=
  token.kind == .integer &&
    token.value.bind (fun text => readNat? text.toList) == some 9223372036854775808

/-- The token that makes the least integer together with a minus sign, and those behind it. -/
def takeLeast? : List Token → Option (Token × List Token)
  | [] => none
  | token :: rest => if isLeastMagnitude token then some (token, rest) else none

/-- Reads an operand with at most one sign before it. -/
def signed (nested : Option Parse) : Parse := fun tokens =>
  match take? .plus tokens, take? .minus tokens with
  | some (sign, rest), _ => do
    let (e, rest) ← primary nested rest
    .ok (.unary .plus sign.span e, rest)
  | none, some (sign, rest) =>
    match takeLeast? rest with
    | some (number, behind) =>
      .ok (.value (sign.span.extendBack number.span) (.integer Int64.minValue), behind)
    | none => do
      let (e, rest) ← primary nested rest
      .ok (.unary .minus sign.span e, rest)
  | none, none => primary nested tokens

/-! ### Binary operators -/

/-- Goes on with a chain whose operands so far form the tree `left`. Every round takes at least an
operator from the tokens, so there are no more rounds than tokens. -/
def chainFrom (level : Level) (operand : Parse) : (rounds : Nat) → Expr → Parse
  | 0, left, tokens => .ok (left, tokens)
  | rounds + 1, left, tokens =>
    match level.joint? tokens with
    | none => .ok (left, tokens)
    | some (joint, rest) => do
      let (right, rest) ← operand rest
      chainFrom level operand rounds (joint.build left right) rest

/-- Reads a chain of operands between operators of one level, and groups it from the left. -/
def chain (level : Level) (operand : Parse) : Parse := fun tokens => do
  let (left, rest) ← operand tokens
  chainFrom level operand rest.length left rest

/-- Reads chains of all levels, the operands of each being chains of the next. -/
def chains (operand : Parse) : Parse :=
  Level.table.foldr chain operand

/-! ### Conditionals -/

/-- Goes on with a row of conditionals, each of which has the tree before it as its condition. Every
round takes at least a question mark from the tokens, so there are no more rounds than tokens. -/
def conditionalsFrom (nested : Option Parse) : (rounds : Nat) → Expr → Parse
  | 0, cond, tokens => .ok (cond, tokens)
  | rounds + 1, cond, tokens =>
    match take? .question tokens with
    | none => .ok (cond, tokens)
    | some (question, rest) =>
      match nested with
      | none => .error ⟨.deepConditionals, question.span⟩
      | some branch => do
        let (ifTrue, rest) ← branch rest
        match take? .colon rest with
        | none => conditionalsFrom nested rounds (.guarded cond ifTrue) rest
        | some (_, rest) => do
          let (ifFalse, rest) ← branch rest
          conditionalsFrom nested rounds (.conditional cond ifTrue ifFalse) rest

/-- Reads an expression whose groups and branches are read by `nested`. -/
def outermost (nested : Option Parse) : Parse := fun tokens => do
  let (cond, rest) ← chains (signed nested) tokens
  conditionalsFrom nested rest.length cond rest

/-! ### Expressions -/

/-- Reads an expression in which groups and branches nest at most `room` deep. -/
def expression : (room : Nat) → Parse
  | 0 => outermost none
  | room + 1 => outermost (some (expression room))

/-- How deep groups and branches may nest. -/
def nestingLimit : Nat := 64

/-- Reads the expression at the head of the tokens. -/
def parseExpression (tokens : List Token) : Except Diagnostic Expr :=
  (expression nestingLimit tokens).map Prod.fst

end Reckon.Grammar
