/-
Module: Reckon.Token.Scan
Purpose: Dividing a text into tokens. Characters that begin no token, and comments up to the end of
  their line, stand between tokens and are passed over. A token is as long as it can be. The first
  malformed token ends the division.
Main exports: Cursor, Lexed, lexHead, Scanner, Scanner.next, Scanner.results, Scanner.tokenize,
  Scanned, scan
-/
import Reckon.Diagnostic
import Reckon.Text.Alphabetic
import Reckon.Text.Numeric

namespace Reckon

/-! ### Places in the text -/

/-- A place in a text: what is left to read, and the offset, line and column of its first
character. -/
structure Cursor where
  rest : List Char
  offset : Nat
  line : Nat
  column : Nat
deriving DecidableEq, Repr, Inhabited

namespace Cursor

/-- The beginning of a text. -/
def start (text : List Char) : Cursor :=
  ⟨text, 0, 1, 1⟩

/-- Moves over one character. To move onto a newline begins a new line, in which the newline has
column 0; a newline at the beginning of the text begins none. -/
def next (c : Cursor) : Cursor :=
  match c.rest with
  | [] => c
  | _ :: '\n' :: rest => ⟨'\n' :: rest, c.offset + 1, c.line + 1, 0⟩
  | _ :: rest => ⟨rest, c.offset + 1, c.line, c.column + 1⟩

/-- Moves over `n` characters. -/
def skip : Nat → Cursor → Cursor
  | 0, c => c
  | n + 1, c => skip n c.next

/-- The span of the next `length` characters. -/
def spanOf (c : Cursor) (length : Nat) : Span :=
  ⟨c.offset, c.offset + length, c.line, c.column⟩

/-- The span of a symbol of one character, which stops where it starts. -/
def pointSpan (c : Cursor) : Span :=
  .point c.offset c.line c.column

/-- Moving on drops one character, if there is one. -/
theorem rest_next (c : Cursor) : c.next.rest = c.rest.drop 1 := by
  unfold next
  split <;> simp_all

/-- Skipping drops that many characters. -/
theorem rest_skip (n : Nat) (c : Cursor) : (c.skip n).rest = c.rest.drop n := by
  induction n generalizing c with
  | zero => simp [skip]
  | succ n ih => simp [skip, ih, rest_next]

end Cursor

/-! ### Classes of characters -/

/-- The symbols of one character. -/
def symbol? : Char → Option TokenKind
  | '+' => some .plus
  | '-' => some .minus
  | '=' => some .equal
  | '!' => some .bang
  | '>' => some .greater
  | '<' => some .less
  | '*' => some .star
  | '/' => some .slash
  | '%' => some .percent
  | '&' => some .amp
  | '|' => some .bar
  | '?' => some .question
  | ':' => some .colon
  | ';' => some .semicolon
  | '^' => some .caret
  | '(' => some .leftParen
  | ')' => some .rightParen
  | '[' => some .leftBracket
  | ']' => some .rightBracket
  | '\x7b' => some .leftBrace
  | '\x7d' => some .rightBrace
  | _ => none

/-- The symbols of two characters. -/
def symbolPair? : Char → Char → Option TokenKind
  | '+', '+' => some .plusPlus
  | '-', '-' => some .minusMinus
  | '=', '=' => some .equalEqual
  | '!', '=' => some .bangEqual
  | '>', '>' => some .greaterGreater
  | '>', '=' => some .greaterEqual
  | '<', '<' => some .lessLess
  | '<', '=' => some .lessEqual
  | '*', '*' => some .starStar
  | '/', '/' => some .slashSlash
  | '&', '&' => some .ampAmp
  | '|', '|' => some .barBar
  | '?', '?' => some .questionQuestion
  | _, _ => none

/-- Whether a character begins a name. -/
def beginsName (c : Char) : Bool :=
  Text.isAlphabetic c || c == '_'

/-- Whether a character goes on with a name. -/
def continuesName (c : Char) : Bool :=
  Text.isAlphabetic c || Text.isNumeric c || c == '_'

/-- Whether a character goes on with a number. -/
def continuesNumber (c : Char) : Bool :=
  c.isDigit || c == '.' || c == '_'

/-- Whether a character opens a string. -/
def isQuote (c : Char) : Bool :=
  c == '"' || c == '\''

/-- Whether a character begins a token. -/
def beginsToken (c : Char) : Bool :=
  (symbol? c).isSome || c.isDigit || beginsName c || isQuote c

/-- The number of characters before the next token, of a text that begins inside a comment or
outside. -/
def gap : (comment : Bool) → List Char → Nat
  | _, [] => 0
  | true, c :: rest => 1 + gap (c != '\n') rest
  | false, c :: rest =>
    if beginsToken c then 0 else 1 + gap (c == '#') rest

/-! ### Single tokens -/

/-- What stands at the head of a text: a kind and the text it stands for, or a complaint, and the
number of characters that it takes up. -/
structure Lexed where
  content : Except Complaint (TokenKind × Option String)
  length : Nat

/-- The kind of a name: some names are operators or literals. -/
def nameKind (name : String) : TokenKind :=
  if name = "is" then .isWord
  else if name = "not" then .notWord
  else if name = "and" then .andWord
  else if name = "xor" then .xorWord
  else if name = "or" then .orWord
  else if name = "True" ∨ name = "False" then .bool
  else if name = "null" then .null
  else .identifier

/-- The character that a backslash and `c` stand for in a string. -/
def unescape (c : Char) : Char :=
  match c with
  | 'n' => '\n'
  | 't' => '\t'
  | 'r' => '\r'
  | '0' => '\x00'
  | other => other

/-- The rest of a string after its opening quote: the characters that it stands for and the number
of those that it takes up with the closing quote, or the number of those before the place where it
breaks off. -/
abbrev StringBody := Except Nat (List Char × Nat)

/-- Puts a character, written with `width` characters, before the rest of a string. -/
def StringBody.push (c : Char) (width : Nat) : StringBody → StringBody
  | .ok (value, length) => .ok (c :: value, length + width)
  | .error length => .error (length + width)

/-- Reads the rest of a string. A backslash takes the next character with it, but never a
newline. -/
def stringBody (quote : Char) : List Char → StringBody
  | [] => .error 0
  | c :: rest =>
    if c = '\n' then .error 0
    else if c = quote then .ok ([], 1)
    else if c = '\\' then
      match rest with
      | [] => .error 1
      | escaped :: rest =>
        if escaped = '\n' then .error 1 else (stringBody quote rest).push (unescape escaped) 2
    else (stringBody quote rest).push c 1

/-- A symbol, of two characters if they form one. -/
def lexSymbol (kind : TokenKind) (c : Char) (rest : List Char) : Lexed :=
  match rest.head?.bind (symbolPair? c) with
  | some pair => ⟨.ok (pair, none), 2⟩
  | none => ⟨.ok (kind, none), 1⟩

/-- A number. Underscores group its digits, and a point makes it a float. -/
def lexNumber (c : Char) (rest : List Char) : Lexed :=
  let numeral := c :: rest.takeWhile continuesNumber
  let value := String.ofList (numeral.filter (· != '_'))
  let content :=
    match numeral.count '.' with
    | 0 => .ok (.integer, some value)
    | 1 => .ok (.float, some value)
    | _ => .error .malformedNumber
  ⟨content, numeral.length⟩

/-- A name. -/
def lexName (c : Char) (rest : List Char) : Lexed :=
  let letters := c :: rest.takeWhile continuesName
  let name := String.ofList letters
  ⟨.ok (nameKind name, some name), letters.length⟩

/-- A string. -/
def lexString (quote : Char) (rest : List Char) : Lexed :=
  match stringBody quote rest with
  | .ok (value, length) => ⟨.ok (.string, some (String.ofList value)), length + 1⟩
  | .error length => ⟨.error .unterminatedString, length + 1⟩

/-- What stands at the head of a text that begins with a token. -/
def lexHead (c : Char) (rest : List Char) : Lexed :=
  match symbol? c with
  | some kind => lexSymbol kind c rest
  | none =>
    if c.isDigit then lexNumber c rest
    else if isQuote c then lexString c rest
    else lexName c rest

/-- Whatever stands at the head of a text takes up a character, so that reading goes on. -/
theorem lexHead_length_pos (c : Char) (rest : List Char) : 0 < (lexHead c rest).length := by
  unfold lexHead lexSymbol lexNumber lexString lexName
  repeat' split
  all_goals simp

/-! ### All tokens -/

/-- The next token or complaint at or after a place, and the place behind it. -/
def Cursor.token? (c : Cursor) : Option (Except Diagnostic Token × Cursor) :=
  let here := c.skip (gap false c.rest)
  match here.rest with
  | [] => none
  | head :: rest =>
    let lexed := lexHead head rest
    let result :=
      match lexed.content with
      | .error complaint => .error ⟨complaint, here.spanOf lexed.length⟩
      | .ok (kind, value) =>
        let lexeme := String.ofList (here.rest.take lexed.length)
        let span :=
          if value.isNone && lexed.length == 1 then here.pointSpan else here.spanOf lexed.length
        .ok ⟨kind, value, lexeme, span⟩
    some (result, here.skip lexed.length)

/-- There is less left to read behind a token than before it. -/
theorem Cursor.rest_length_lt_of_token? {c after : Cursor} {result : Except Diagnostic Token}
    (found : c.token? = some (result, after)) : after.rest.length < c.rest.length := by
  unfold Cursor.token? at found
  simp only at found
  split at found
  · simp at found
  · next head rest here =>
    simp only [Option.some.injEq, Prod.mk.injEq] at found
    have positive := lexHead_length_pos head rest
    have shorter : (head :: rest).length ≤ c.rest.length := by
      rw [← here, rest_skip]
      simp
    rw [← found.2, rest_skip, here]
    simp only [List.length_drop, List.length_cons] at shorter ⊢
    omega

/-- A reading of a text, one token at a time, which a complaint brings to its end. -/
structure Scanner where
  cursor : Cursor
  halted : Bool
deriving DecidableEq, Repr, Inhabited

namespace Scanner

/-- A reading that begins at the beginning of a text. -/
def ofText (text : String) : Scanner :=
  ⟨.start text.toList, false⟩

/-- The next token or complaint, if there is one, and the reading after it. -/
def next (s : Scanner) : Option (Except Diagnostic Token) × Scanner :=
  if s.halted then (none, s)
  else
    match s.cursor.token? with
    | none => (none, s)
    | some (.error d, after) => (some (.error d), ⟨after, true⟩)
    | some (.ok token, after) => (some (.ok token), ⟨after, false⟩)

/-- The results of `steps` readings in a row, and the reading after them. -/
def take : (steps : Nat) → Scanner → List (Option (Except Diagnostic Token)) × Scanner
  | 0, s => ([], s)
  | steps + 1, s =>
    let (result, s) := s.next
    let (results, s) := s.take steps
    (result :: results, s)

/-- What is left to read of a text that is still being read. -/
def room (s : Scanner) : Nat :=
  if s.halted then 0 else s.cursor.rest.length + 1

/-- Every token and every complaint takes up room. -/
theorem room_lt_of_next {s after : Scanner} {result : Except Diagnostic Token}
    (found : s.next = (some result, after)) : after.room < s.room := by
  unfold next at found
  split at found
  · cases found
  · next reading =>
      have left : s.room = s.cursor.rest.length + 1 := if_neg reading
      split at found
      · cases found
      · cases found
        rw [left]
        exact Nat.succ_pos _
      · next behind token =>
          cases found
          rw [left]
          exact Nat.succ_lt_succ (Cursor.rest_length_lt_of_token? token)

/-- All tokens and complaints that are left, in the order in which they are found. -/
def results (s : Scanner) : List (Except Diagnostic Token) :=
  match found : s.next with
  | (none, _) => []
  | (some result, after) =>
    have := room_lt_of_next found
    result :: after.results
termination_by s.room

/-- The complaint of a result that is one. -/
def complaintOf? : Except Diagnostic Token → Option Diagnostic
  | .ok _ => none
  | .error diagnostic => some diagnostic

/-- All tokens that are left, with the one that ends the program, and all complaints. -/
def tokenize (s : Scanner) : List Token × List Diagnostic :=
  (s.results.filterMap Except.toOption ++ [.endOfInput], s.results.filterMap complaintOf?)

end Scanner

/-- The tokens of a text, and the first complaint about it. -/
structure Scanned where
  tokens : List Token
  complaint? : Option Diagnostic
deriving DecidableEq, Repr, Inhabited

/-- All tokens that are left, with the one that ends the program, and the first complaint. -/
def Scanner.rest (s : Scanner) : Scanned :=
  ⟨s.tokenize.1, s.tokenize.2.head?⟩

/-- The tokens of a text. They end with the token that ends every program, also when a complaint cut
them short. -/
def scan (text : String) : Scanned :=
  (Scanner.ofText text).rest

end Reckon
