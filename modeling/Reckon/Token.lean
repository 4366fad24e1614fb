/-
Module: Reckon.Token
Purpose: The words of the language.
Main exports: TokenKind, TokenKind.name, TokenKind.article, Token, Token.endOfInput, Token.describe
-/
import Reckon.Span

namespace Reckon

/-- The kinds of tokens: literals and names, symbols, words that are operators, and the end of the
input. -/
inductive TokenKind where
  | integer
  | float
  | string
  | identifier
  | bool
  | null
  | plus
  | minus
  | star
  | slash
  | percent
  | equal
  | plusPlus
  | minusMinus
  | starStar
  | slashSlash
  | greater
  | less
  | greaterGreater
  | lessLess
  | amp
  | bar
  | caret
  | ampAmp
  | barBar
  | equalEqual
  | bangEqual
  | greaterEqual
  | lessEqual
  | bang
  | question
  | questionQuestion
  | colon
  | semicolon
  | leftParen
  | rightParen
  | leftBracket
  | rightBracket
  | leftBrace
  | rightBrace
  | isWord
  | notWord
  | andWord
  | xorWord
  | orWord
  | endOfInput
deriving DecidableEq, Repr, Inhabited

namespace TokenKind

/-- The name of a kind in messages. -/
def name : TokenKind → String
  | .integer => "integer"
  | .float => "float"
  | .string => "string"
  | .identifier => "identifier"
  | .bool => "bool"
  | .null => "null"
  | .plus => "plus"
  | .minus => "minus"
  | .star => "star"
  | .slash => "slash"
  | .percent => "percent"
  | .equal => "equal sign"
  | .plusPlus => "increment"
  | .minusMinus => "decrement"
  | .starStar => "power"
  | .slashSlash => "floor divide"
  | .greater => "greater than"
  | .less => "lower than"
  | .greaterGreater => "right shift"
  | .lessLess => "left shift"
  | .amp => "ampersand"
  | .bar => "bar"
  | .caret => "caret"
  | .ampAmp => "and operator"
  | .barBar => "or operator"
  | .equalEqual => "equal operator"
  | .bangEqual => "not equal operator"
  | .greaterEqual => "greater equal"
  | .lessEqual => "lower equal"
  | .bang => "exclamation mark"
  | .question => "question mark"
  | .questionQuestion => "null coalesce operator"
  | .colon => "colon"
  | .semicolon => "semicolon"
  | .leftParen => "left paren"
  | .rightParen => "right paren"
  | .leftBracket => "left brace"
  | .rightBracket => "right brace"
  | .leftBrace => "left curly brace"
  | .rightBrace => "right curly brace"
  | .isWord => "is operator"
  | .notWord => "not operator"
  | .andWord => "and word operator"
  | .xorWord => "xor word operator"
  | .orWord => "or word operator"
  | .endOfInput => "end of file"

/-- The indefinite article that goes before the name of a kind. -/
def article : TokenKind → String
  | .integer | .identifier | .plusPlus | .equal | .amp | .ampAmp | .barBar | .equalEqual | .bang
  | .isWord
  | .andWord | .orWord | .endOfInput => "an"
  | _ => "a"

end TokenKind

/-- A word of a program: its kind, the text it stands for if it stands for one, its characters, and
its place. -/
structure Token where
  kind : TokenKind
  value : Option String
  lexeme : String
  span : Span
deriving DecidableEq, Repr, Inhabited

namespace Token

/-- The token that ends every program. -/
def endOfInput : Token :=
  ⟨.endOfInput, none, "EOF", .endOfInput⟩

/-- A token in words. -/
def describe (t : Token) : String :=
  t.kind.name ++ " '" ++ t.lexeme ++ "' (" ++ t.span.describe ++ ")"

end Token

end Reckon
