/-
Module: Reckon.Proofs.Partition
Purpose: The tokens of a text are slices of it, one behind the other, each as long as it can be, and
  all that lies between them is passed over for a reason: it is inside a comment, or it could begin
  no token. The operators and the classes of characters are written out here and not taken from the
  scanner. The proof follows a reading of the text; what it has shown of the text behind a lexeme it
  keeps while it adds the lexeme and the characters before it.
Main exports: operators, IsOperator, TokenForm, Token.Covers, Token.Before, Slice, Idle, InComment,
  Partitioned, Cursor.Reads.partitioned, scan_partition
-/
import Reckon.Proofs.Lexeme

namespace Reckon

/-! ### Forms of tokens -/

/-- The operators of one and of two characters, and the kinds of their tokens. -/
def operators : List (String × TokenKind) :=
  [("+", .plus), ("++", .plusPlus), ("-", .minus), ("--", .minusMinus),
    ("*", .star), ("**", .starStar), ("/", .slash), ("//", .slashSlash), ("%", .percent),
    ("=", .equal), ("==", .equalEqual), ("!", .bang), ("!=", .bangEqual),
    (">", .greater), (">>", .greaterGreater), (">=", .greaterEqual),
    ("<", .less), ("<<", .lessLess), ("<=", .lessEqual),
    ("&", .amp), ("&&", .ampAmp), ("|", .bar), ("||", .barBar), ("^", .caret),
    ("?", .question), ("??", .questionQuestion), (":", .colon), (";", .semicolon),
    ("(", .leftParen), (")", .rightParen), ("[", .leftBracket), ("]", .rightBracket),
    ("\x7b", .leftBrace), ("\x7d", .rightBrace)]

/-- A text that is an operator. -/
def IsOperator (text : String) : Prop :=
  ∃ kind, (text, kind) ∈ operators

instance (text : String) : Decidable (IsOperator text) :=
  decidable_of_iff (text ∈ operators.map Prod.fst) (by simp [IsOperator])

/-- The kinds of names: those of words that are operators or literals, and those of all others. -/
def TokenKind.isName : TokenKind → Bool
  | .identifier | .bool | .null | .isWord | .notWord | .andWord | .xorWord | .orWord => true
  | _ => false

/-- The kinds of numbers. -/
def TokenKind.isNumber : TokenKind → Bool
  | .integer | .float => true
  | _ => false

/-- The characters that go on with a name. -/
def IsNameChar (c : Char) : Prop :=
  Text.isAlphabetic c = true ∨ Text.isNumeric c = true ∨ c = '_'

/-- The characters that go on with a number. -/
def IsNumberChar (c : Char) : Prop :=
  c.isDigit = true ∨ c = '.' ∨ c = '_'

/-- The forms of tokens, and the kinds that go with them. -/
inductive TokenForm : TokenKind → List Char → Prop where
  | operator {text : String} {kind : TokenKind} (known : (text, kind) ∈ operators) :
      TokenForm kind text.toList
  | number {kind : TokenKind} {first : Char} {more : List Char} (ofKind : kind.isNumber = true)
      (digit : first.isDigit = true) (goesOn : ∀ c ∈ more, IsNumberChar c) :
        TokenForm kind (first :: more)
  | name {kind : TokenKind} {first : Char} {more : List Char} (ofKind : kind.isName = true)
      (letter : Text.isAlphabetic first = true ∨ first = '_') (goesOn : ∀ c ∈ more, IsNameChar c) :
      TokenForm kind (first :: more)
  | string {quote : Char} {body : List Char} (opens : quote = '"' ∨ quote = '\'') :
      TokenForm .string (quote :: (body ++ [quote]))

/-! ### Slices -/

namespace Token

/-- The characters of a token include the one at an offset. -/
def Covers (token : Token) (offset : Nat) : Prop :=
  token.span.start ≤ offset ∧ (offset : Int) < token.span.start + token.lexeme.length

instance (token : Token) (offset : Nat) : Decidable (token.Covers offset) :=
  inferInstanceAs (Decidable (_ ∧ _))

/-- A token begins before another and ends before it begins. -/
def Before (first second : Token) : Prop :=
  first.span.start < second.span.start ∧ first.span.start + first.lexeme.length ≤ second.span.start

/-- An operator of one character. -/
def IsPoint (token : Token) : Prop :=
  IsOperator token.lexeme ∧ token.lexeme.length = 1

end Token

/-- A token is the slice of a text between two parts of it, and is the longest of its form. -/
structure Slice (text : List Char) (token : Token) (before after : List Char) : Prop where
  parts : text = before ++ (token.lexeme.toList ++ after)
  nonempty : token.lexeme.toList ≠ []
  start : token.span.start = before.length
  stop : ¬ token.IsPoint → token.span.stop = token.span.start + token.lexeme.length
  stopPoint : token.IsPoint → token.span.stop = token.span.start
  form : TokenForm token.kind token.lexeme.toList
  name : token.kind.isName = true → ∀ c ∈ after.head?, ¬ IsNameChar c
  number : token.kind.isNumber = true → ∀ c ∈ after.head?, ¬ IsNumberChar c
  operator : IsOperator token.lexeme → ∀ c ∈ after.head?, ¬ IsOperator (token.lexeme.push c)

/-! ### Classes of characters -/

/-- The characters of names are those with which a name goes on. -/
theorem isNameChar_iff {c : Char} : IsNameChar c ↔ continuesName c = true := by
  simp [IsNameChar, continuesName, or_assoc]

/-- The characters of numbers are those with which a number goes on. -/
theorem isNumberChar_iff {c : Char} : IsNumberChar c ↔ continuesNumber c = true := by
  simp [IsNumberChar, continuesNumber, or_assoc]

/-- The kind of an operator as the scanner has it. -/
def operatorKind? : List Char → Option TokenKind
  | [c] => symbol? c
  | [first, second] => symbolPair? first second
  | _ => none

theorem mem_operators_of_operatorKind? {lexeme : List Char} {kind : TokenKind}
    (known : operatorKind? lexeme = some kind) : (String.ofList lexeme, kind) ∈ operators := by
  unfold operatorKind? at known
  split at known
  · unfold symbol? at known
    split at known <;> cases known
    all_goals decide
  · unfold symbolPair? at known
    split at known <;> cases known
    all_goals decide
  · cases known

/-- The scanner knows the operators that are listed, and no others. -/
theorem mem_operators_iff {lexeme : List Char} {kind : TokenKind} :
    (String.ofList lexeme, kind) ∈ operators ↔ operatorKind? lexeme = some kind := by
  constructor
  · intro member
    have known : ∀ entry ∈ operators, operatorKind? entry.1.toList = some entry.2 := by decide
    simpa using known _ member
  · exact mem_operators_of_operatorKind?

/-- A lexeme is an operator if it has the kind of one. -/
theorem isOperator_iff {lexeme : List Char} :
    IsOperator (String.ofList lexeme) ↔ ∃ kind, operatorKind? lexeme = some kind :=
  exists_congr fun _ => mem_operators_iff

/-- Every operator begins with a symbol. -/
theorem not_isOperator_of_symbol? {first : Char} (none : symbol? first = none) (more : List Char) :
    ¬ IsOperator (String.ofList (first :: more)) := by
  rw [isOperator_iff]
  rintro ⟨kind, known⟩
  unfold operatorKind? at known
  split at known
  · next c single =>
      cases single
      rw [none] at known
      cases known
  · next c second pair =>
      cases pair
      have begins := symbol?_of_symbolPair? known
      rw [none] at begins
      cases begins
  · cases known

/-- No operator is of the kind of a name, of a number or of the end of the input. -/
theorem kind_of_operator {text : String} {kind : TokenKind} (known : (text, kind) ∈ operators) :
    kind.isName = false ∧ kind.isNumber = false ∧ kind ≠ .endOfInput := by
  have kinds : ∀ entry ∈ operators,
      entry.2.isName = false ∧ entry.2.isNumber = false ∧ entry.2 ≠ .endOfInput := by decide
  exact kinds _ known

theorem nameKind_isName (name : String) : (nameKind name).isName = true := by
  unfold nameKind
  repeat' split
  all_goals rfl

/-! ### Lexemes are of these forms -/

/-- A string that closes ends with its quote. -/
theorem exists_body_of_stringBody {quote : Char} {body value : List Char}
    (closed : stringBody quote body = .ok (value, body.length)) :
    ∃ inner, body = inner ++ [quote] := by
  generalize lengthEq : body.length = length at closed
  fun_induction stringBody quote body generalizing value length with
  | case1 => cases closed
  | case2 => cases closed
  | case3 rest noNewline =>
      cases closed
      obtain rfl : rest = [] := by simpa using lengthEq
      exact ⟨[], rfl⟩
  | case4 => cases closed
  | case5 => cases closed
  | case6 escaped rest noEscapedNewline _ noQuote inductionHypothesis =>
      obtain ⟨others, shorter, closedRest, rfl, rfl⟩ := StringBody.push_eq_ok closed
      obtain ⟨inner, rfl⟩ := inductionHypothesis shorter (by simpa using lengthEq) closedRest
      exact ⟨'\\' :: escaped :: inner, rfl⟩
  | case7 c rest noNewline noQuote noBackslash inductionHypothesis =>
      obtain ⟨others, shorter, closedRest, rfl, rfl⟩ := StringBody.push_eq_ok closed
      obtain ⟨inner, rfl⟩ := inductionHypothesis shorter (by simpa using lengthEq) closedRest
      exact ⟨c :: inner, rfl⟩

section Lexemes

variable {kind : TokenKind} {value : Option String} {lexeme rest : List Char}

/-- A lexeme stands for no text if and only if it is an operator. -/
theorem Lexeme.isOperator_iff (formed : Lexeme kind value lexeme rest) :
    IsOperator (String.ofList lexeme) ↔ value.isNone = true := by
  cases formed with
  | symbol known _ => exact iff_of_true ⟨kind, mem_operators_iff.mpr known⟩ rfl
  | pair known => exact iff_of_true ⟨kind, mem_operators_iff.mpr known⟩ rfl
  | number digit _ _ =>
      exact iff_of_false (not_isOperator_of_symbol? (symbol?_eq_none_of (.inl digit)) _) nofun
  | name begins _ =>
      exact iff_of_false (not_isOperator_of_symbol? (symbol?_eq_none_of (.inr (.inr begins))) _)
        nofun
  | string opens _ =>
      exact iff_of_false (not_isOperator_of_symbol? (symbol?_eq_none_of (.inr (.inl opens))) _)
        nofun

/-- Every lexeme has the form that its kind asks for. -/
theorem Lexeme.form (formed : Lexeme kind value lexeme rest) : TokenForm kind lexeme := by
  have listed : operatorKind? lexeme = some kind → TokenForm kind lexeme := by
    intro known
    have form := TokenForm.operator (mem_operators_iff.mpr known)
    rwa [String.toList_ofList] at form
  cases formed with
  | symbol known _ => exact listed known
  | pair known => exact listed known
  | number digit longest points =>
      refine .number ?_ digit fun c member => isNumberChar_iff.mpr (longest.goesOn c member)
      rcases points with ⟨rfl, _⟩ | ⟨rfl, _⟩ <;> rfl
  | name begins longest =>
      refine .name (nameKind_isName _) ?_ fun c member =>
        isNameChar_iff.mpr (longest.goesOn c member)
      simpa [beginsName] using begins
  | string opens closed =>
      obtain ⟨inner, rfl⟩ := exists_body_of_stringBody closed
      exact .string (by simpa [isQuote] using opens)

/-- Only the end of the input is of the kind of the end of the input. -/
theorem TokenForm.kind_ne (form : TokenForm kind lexeme) : kind ≠ .endOfInput := by
  cases form with
  | operator known => exact (kind_of_operator known).2.2
  | number ofKind _ _ => rintro rfl; cases ofKind
  | name ofKind _ _ => rintro rfl; cases ofKind
  | string _ => decide

/-- A name, a number and an operator are the longest of their forms. -/
theorem Lexeme.longest (formed : Lexeme kind value lexeme rest) :
    (kind.isName = true → ∀ c ∈ rest.head?, ¬ IsNameChar c) ∧
      (kind.isNumber = true → ∀ c ∈ rest.head?, ¬ IsNumberChar c) ∧
      (IsOperator (String.ofList lexeme) →
        ∀ c ∈ rest.head?, ¬ IsOperator (String.ofList (lexeme ++ [c]))) := by
  have operator := formed.isOperator_iff
  cases formed with
  | @symbol c _ _ known alone =>
      have listed : operatorKind? [c] = some kind := known
      have kinds := kind_of_operator (mem_operators_iff.mpr listed)
      refine ⟨by simp [kinds], by simp [kinds], fun _ next member => ?_⟩
      rw [Reckon.isOperator_iff]
      rintro ⟨pairKind, pair⟩
      have single : symbolPair? c next = none := alone next member
      exact absurd (single.symm.trans pair) nofun
  | @pair first second _ _ known =>
      have listed : operatorKind? [first, second] = some kind := known
      have kinds := kind_of_operator (mem_operators_iff.mpr listed)
      refine ⟨by simp [kinds], by simp [kinds], fun _ next member => ?_⟩
      rw [Reckon.isOperator_iff]
      rintro ⟨_, ⟨⟩⟩
  | number _ longest points =>
      refine ⟨fun ofKind => ?_, fun _ c member => ?_, fun listed => nomatch operator.mp listed⟩
      · rcases points with ⟨rfl, _⟩ | ⟨rfl, _⟩ <;> cases ofKind
      · rw [isNumberChar_iff, longest.ends c member]
        exact Bool.false_ne_true
  | @name first more _ _ longest =>
      have notNumber : ∀ kind : TokenKind, kind.isName = true → kind.isNumber = false := by
        intro kind
        cases kind <;> decide
      refine ⟨fun _ c member => ?_, fun ofKind => ?_, fun listed => nomatch operator.mp listed⟩
      · rw [isNameChar_iff, longest.ends c member]
        exact Bool.false_ne_true
      · rw [notNumber _ (nameKind_isName _)] at ofKind
        cases ofKind
  | string _ _ => exact ⟨nofun, nofun, fun listed => nomatch operator.mp listed⟩

/-- A lexeme at its place is a slice of the text. -/
theorem Lexeme.slice (formed : Lexeme kind value lexeme rest) {c : Cursor} {before : List Char}
    (placed : c.offset = before.length) :
    Slice (before ++ (lexeme ++ rest)) (c.tokenAt kind value lexeme) before rest := by
  have lexemeEq : (c.tokenAt kind value lexeme).lexeme = String.ofList lexeme := rfl
  have point : (c.tokenAt kind value lexeme).IsPoint ↔
      (value.isNone && lexeme.length == 1) = true := by
    rw [Token.IsPoint, lexemeEq, formed.isOperator_iff, String.length_ofList, Bool.and_eq_true,
      beq_iff_eq]
  constructor
  case parts => rw [Cursor.toList_lexeme_tokenAt]
  case nonempty =>
    obtain ⟨head, tail, rfl, _⟩ := formed.lexHead_eq
    simp
  case start => rw [Cursor.start_tokenAt, placed]
  case stop =>
    intro noPoint
    rw [Cursor.start_tokenAt, Cursor.length_lexeme_tokenAt, Cursor.tokenAt,
      if_neg (mt point.mpr noPoint)]
    rfl
  case stopPoint =>
    intro isPoint
    rw [Cursor.start_tokenAt, Cursor.tokenAt, if_pos (point.mp isPoint)]
    rfl
  case form =>
    rw [Cursor.toList_lexeme_tokenAt]
    exact formed.form
  case name => exact formed.longest.1
  case number => exact formed.longest.2.1
  case operator =>
    intro listed next member
    have pushed : (String.ofList lexeme).push next = String.ofList (lexeme ++ [next]) := by
      rw [← String.toList_inj, String.toList_push, String.toList_ofList, String.toList_ofList]
    rw [lexemeEq, pushed]
    exact formed.longest.2.2 listed next member

end Lexemes

/-! ### What lies between -/

/-- A character that begins neither a token nor a comment. -/
structure Idle (c : Char) : Prop where
  operator : ¬ IsOperator (String.ofList [c])
  digit : c.isDigit = false
  letter : Text.isAlphabetic c = false
  underscore : c ≠ '_'
  doubleQuote : c ≠ '"'
  singleQuote : c ≠ '\''
  hash : c ≠ '#'

/-- The character at an offset lies in a comment that begins at `first` or behind it: from a `#` on
there is neither a newline nor a character of a token. -/
def InComment (text : List Char) (words : List Token) (first offset : Nat) : Prop :=
  ∃ hash, first ≤ hash ∧ hash ≤ offset ∧ text[hash]? = some '#' ∧
    ∀ place, hash ≤ place → place ≤ offset →
      text[place]? ≠ some '\n' ∧ ∀ word ∈ words, ¬ word.Covers place

/-- A character that begins neither a token nor a comment is idle. -/
theorem idle_of_not_beginsToken {c : Char} (plain : beginsToken c = false) (noHash : c ≠ '#') :
    Idle c := by
  simp only [beginsToken, beginsName, isQuote, Bool.or_eq_false_iff, beq_eq_false_iff_ne,
    Option.isSome_eq_false_iff, Option.isNone_iff_eq_none] at plain
  obtain ⟨⟨⟨symbol, digit⟩, letter, underscore⟩, doubleQuote, singleQuote⟩ := plain
  exact ⟨not_isOperator_of_symbol? symbol [], digit, letter, underscore, doubleQuote, singleQuote,
    noHash⟩

/-- A comment among characters that are passed over. -/
def PassedComment (passed : List Char) (offset : Nat) : Prop :=
  ∃ hash ≤ offset, passed[hash]? = some '#' ∧
    ∀ place, hash ≤ place → place ≤ offset → passed[place]? ≠ some '\n'

section Passed

variable {passed : List Char} {offset : Nat} {c : Char}

/-- A comment stays one behind another character. -/
theorem PassedComment.cons (comment : PassedComment passed offset) :
    PassedComment (c :: passed) (offset + 1) := by
  obtain ⟨hash, le, found, noNewline⟩ := comment
  refine ⟨hash + 1, Nat.succ_le_succ le, by simpa using found, fun place behind upper => ?_⟩
  cases place with
  | zero => omega
  | succ place => simpa using noNewline place (by omega) (by omega)

/-- A line goes on before its first character if that is no newline. -/
theorem noNewline_cons (first : c ≠ '\n')
    (others : ∀ place < offset, passed[place]? ≠ some '\n') :
    ∀ place < offset + 1, (c :: passed)[place]? ≠ some '\n' := by
  intro place within
  cases place with
  | zero => simpa using first
  | succ place => simpa using others place (by omega)

/-- Up to its newline, everything behind a hash is a comment. -/
theorem passedComment_of_noNewline (found : passed[0]? = some '#')
    (noNewline : ∀ place < offset + 1, passed[place]? ≠ some '\n') : PassedComment passed offset :=
  ⟨0, Nat.zero_le _, found, fun place _ upper => noNewline place (by omega)⟩

end Passed

/-- A character that is passed over is idle, or it is in a comment: in one that begins among these
characters, or in one that was begun before them and has not ended. -/
theorem Passes.idle_or_comment {comment after : Bool} {passed : List Char}
    (passes : Passes comment passed after) {offset : Nat} {c : Char}
    (found : passed[offset]? = some c) :
    Idle c ∨ PassedComment passed offset ∨
      comment = true ∧ ∀ place < offset + 1, passed[place]? ≠ some '\n' := by
  induction passes generalizing offset with
  | nil => cases found
  | @inside first rest _ _ inductionHypothesis =>
      cases offset with
      | zero =>
          obtain rfl : first = c := by simpa using found
          by_cases newline : first = '\n'
          · subst newline
            exact .inl (idle_of_not_beginsToken (by decide) (by decide))
          · exact .inr (.inr ⟨rfl, noNewline_cons newline (by simp)⟩)
      | succ offset =>
          rcases inductionHypothesis (by simpa using found) with
            idle | comment | ⟨goesOn, noNewline⟩
          · exact .inl idle
          · exact .inr (.inl comment.cons)
          · have newline : first ≠ '\n' := by simpa using goesOn
            exact .inr (.inr ⟨rfl, noNewline_cons newline noNewline⟩)
  | @outside first rest _ plain _ inductionHypothesis =>
      cases offset with
      | zero =>
          obtain rfl : first = c := by simpa using found
          by_cases hash : first = '#'
          · subst hash
            exact .inr (.inl
              (passedComment_of_noNewline rfl (noNewline_cons (by decide) (by simp))))
          · exact .inl (idle_of_not_beginsToken plain hash)
      | succ offset =>
          rcases inductionHypothesis (by simpa using found) with idle | comment | ⟨hash, noNewline⟩
          · exact .inl idle
          · exact .inr (.inl comment.cons)
          · obtain rfl : first = '#' := by simpa using hash
            exact .inr (.inl
              (passedComment_of_noNewline rfl (noNewline_cons (by decide) noNewline)))

/-! ### Partitions -/

/-- How the tokens of a text lie in it from an offset on. -/
structure Partitioned (text : List Char) (first : Nat) (scanned : Scanned) : Prop where
  behind : ∀ word ∈ scanned.tokens, (first : Int) ≤ word.span.start
  kinds : ∀ word ∈ scanned.tokens, word.kind ≠ .endOfInput
  ordered : scanned.tokens.Pairwise Token.Before
  slices : ∀ word ∈ scanned.tokens, ∃ before after, Slice text word before after
  between : ∀ offset c, first ≤ offset → text[offset]? = some c →
    (∀ diagnostic ∈ scanned.complaint?, (offset : Int) < diagnostic.span.start) →
    (∀ word ∈ scanned.tokens, ¬ word.Covers offset) →
      InComment text scanned.tokens first offset ∨ Idle c

/-- Characters that are passed over before all tokens are idle or in a comment. -/
theorem Passes.inComment_or_idle {after : Bool} {before passed rest : List Char}
    {words : List Token} (passes : Passes false passed after)
    (behind : ∀ word ∈ words, (before.length + passed.length : Int) ≤ word.span.start)
    {offset : Nat} {c : Char} (lower : before.length ≤ offset)
    (upper : offset < before.length + passed.length)
    (found : (before ++ (passed ++ rest))[offset]? = some c) :
    InComment (before ++ (passed ++ rest)) words before.length offset ∨ Idle c := by
  have inPassed : ∀ place, before.length ≤ place → place ≤ offset →
      (before ++ (passed ++ rest))[place]? = passed[place - before.length]? := by
    intro place low high
    rw [List.getElem?_append_right low, List.getElem?_append_left (by omega)]
  rw [inPassed offset lower (Nat.le_refl _)] at found
  rcases passes.idle_or_comment found with idle | ⟨hash, le, hashFound, noNewline⟩ | ⟨impossible, _⟩
  · exact .inr idle
  · refine .inl ⟨before.length + hash, by omega, by omega, ?_, fun place low high => ⟨?_, ?_⟩⟩
    · rw [inPassed _ (by omega) (by omega), Nat.add_sub_cancel_left, hashFound]
    · rw [inPassed place (by omega) high]
      exact noNewline _ (by omega) (by omega)
    · intro word member covers
      have := behind word member
      have := covers.1
      omega
  · cases impossible

theorem length_of_getElem? {text : List Char} {offset : Nat} {c : Char}
    (found : text[offset]? = some c) : offset < text.length :=
  (List.getElem?_eq_some_iff.mp found).1

/-- A comment between later tokens is one between all of them. -/
theorem InComment.cons {text : List Char} {words : List Token} {word : Token}
    {first later offset : Nat} (comment : InComment text words later offset)
    (before : first ≤ later) (clear : ∀ place, later ≤ place → ¬ word.Covers place) :
    InComment text (word :: words) first offset := by
  obtain ⟨hash, lower, upper, found, plain⟩ := comment
  refine ⟨hash, by omega, upper, found, fun place low high => ⟨(plain place low high).1, ?_⟩⟩
  intro other member
  rcases List.mem_cons.mp member with rfl | later
  · exact clear place (by omega)
  · exact (plain place low high).2 other later

/-- A lexeme, and the characters that are passed over before it, are put before what is partitioned
already. -/
theorem Partitioned.cons {before passed lexeme rest : List Char} {kind : TokenKind}
    {value : Option String} {others : Scanned} {c : Cursor}
    (placed : c.offset = (before ++ passed).length) (passes : Passes false passed false)
    (formed : Lexeme kind value lexeme rest)
    (onward : Partitioned (before ++ passed ++ lexeme ++ rest)
      (before ++ passed ++ lexeme).length others) :
    Partitioned (before ++ passed ++ lexeme ++ rest) before.length
      ⟨c.tokenAt kind value lexeme :: others.tokens, others.complaint?⟩ := by
  obtain ⟨behind, kinds, ordered, slices, between⟩ := onward
  simp only [List.length_append] at placed behind between
  have slice : Slice (before ++ passed ++ (lexeme ++ rest)) (c.tokenAt kind value lexeme)
      (before ++ passed) rest :=
    formed.slice (by rw [placed, List.length_append])
  have nonempty : 0 < lexeme.length := by
    simpa using List.length_pos_iff.mpr slice.nonempty
  rw [← List.append_assoc] at slice
  have start : (c.tokenAt kind value lexeme).span.start = before.length + passed.length := by
    rw [Cursor.start_tokenAt, placed, Int.natCast_add]
  have length : (c.tokenAt kind value lexeme).lexeme.length = lexeme.length := by simp
  have kindNe : (c.tokenAt kind value lexeme).kind ≠ .endOfInput := formed.form.kind_ne
  generalize c.tokenAt kind value lexeme = word at start length slice kindNe ⊢
  constructor
  case behind =>
    intro other member
    rcases List.mem_cons.mp member with rfl | later
    · omega
    · have := behind other later
      omega
  case kinds =>
    intro other member
    rcases List.mem_cons.mp member with rfl | later
    · exact kindNe
    · exact kinds other later
  case ordered =>
    refine List.pairwise_cons.mpr ⟨fun other member => ?_, ordered⟩
    have := behind other member
    constructor <;> omega
  case slices =>
    intro other member
    rcases List.mem_cons.mp member with rfl | later
    · exact ⟨_, _, slice⟩
    · exact slices other later
  case between =>
    intro offset other lower found early uncovered
    by_cases inPassed : offset < before.length + passed.length
    · have reassoc : before ++ passed ++ lexeme ++ rest =
          before ++ (passed ++ (lexeme ++ rest)) := by simp
      rw [reassoc] at found ⊢
      refine passes.inComment_or_idle (fun word' member => ?_) lower inPassed found
      rcases List.mem_cons.mp member with rfl | later
      · omega
      · have := behind word' later
        omega
    · -- A character behind the passed ones is one of the lexeme or stands behind it.
      have noCover := uncovered word (by simp)
      have behindLexeme : before.length + passed.length + lexeme.length ≤ offset := by
        by_contra inLexeme
        exact noCover ⟨by omega, by omega⟩
      rcases between offset other behindLexeme found early
          (fun word' member => uncovered word' (by simp [member])) with comment | idle
      · refine .inl (comment.cons (by omega) fun place low covers => ?_)
        have := covers.2
        omega
      · exact .inr idle

/-- The tokens of a reading are a partition of the text from its place on. -/
theorem Cursor.Reads.partitioned {c : Cursor} {scanned : Scanned} (reads : c.Reads scanned)
    {before : List Char} (placed : c.offset = before.length) :
    Partitioned (before ++ c.rest) before.length scanned := by
  induction reads generalizing before with
  | @nothing c _ passes =>
      constructor
      case between =>
        intro offset other lower found _ _
        have within := length_of_getElem? found
        rw [List.length_append] at within
        rw [← List.append_nil c.rest] at found ⊢
        exact passes.inComment_or_idle (by simp) lower within found
      all_goals simp
  | @malformed c passed lexeme rest complaint parts passes broken =>
      have start : (c.skip passed.length).offset = before.length + passed.length := by
        rw [Cursor.offset_skip (by simp [parts]), placed]
      constructor
      case between =>
        intro offset other lower found early _
        have upper := early _ rfl
        simp only [Cursor.spanOf, start] at upper
        rw [parts] at found ⊢
        exact passes.inComment_or_idle (by simp) lower (by omega) found
      all_goals simp
  | @token c passed lexeme rest kind value others parts passes formed _ inductionHypothesis =>
      have here : (c.skip passed.length).offset = (before ++ passed).length := by
        rw [Cursor.offset_skip (by simp [parts]), placed, List.length_append]
      have restHere : (c.skip passed.length).rest = lexeme ++ rest := Cursor.rest_skip_passed parts
      have after : ((c.skip passed.length).skip lexeme.length).offset =
          (before ++ passed ++ lexeme).length := by
        rw [Cursor.offset_skip (by simp [restHere]), here]
        simp only [List.length_append]
      have onward := inductionHypothesis after
      rw [Cursor.rest_skip_passed restHere] at onward
      rw [parts, ← List.append_assoc, ← List.append_assoc]
      exact onward.cons here passes formed

/-! ### Scanners -/

/-- A complaint brings a scanner to its end, so it is the only one. -/
theorem Scanner.length_complaints_le_one (s : Scanner) : s.tokenize.2.length ≤ 1 := by
  unfold tokenize
  fun_induction results s with
  | case1 s after found => exact Nat.zero_le _
  | case2 s result after found _ inductionHypothesis =>
      cases result with
      | ok token => exact inductionHypothesis
      | error diagnostic =>
          have halts : after.halted = true := by
            unfold next at found
            repeat' split at found
            all_goals cases found
            rfl
          rw [results_of_halted halts]
          exact Nat.le_refl _

/-- A scanner gives all tokens of a text, and at most one complaint. The tokens end with the one
that ends every program, and no other is of its kind. All tokens before the last are slices of the
text, one behind the other. They are not empty, start where their spans say, and stop behind their
last characters, operators of one character apart, which stop where they start; and each is as long
as it can be. A character before the place of the complaint that belongs to no token is in a
comment, or it is one that begins neither token nor comment. -/
theorem scan_partition (source : String) :
    let text := source.toList
    let complaints := (Scanner.ofText source).tokenize.2
    let words := (Scanner.ofText source).tokenize.1.dropLast
    complaints.length ≤ 1 ∧ scan source = ⟨words ++ [.endOfInput], complaints.head?⟩ ∧
      (∀ word ∈ words, word.kind ≠ .endOfInput) ∧
      words.Pairwise Token.Before ∧ (∀ word ∈ words, ∃ before after, Slice text word before after) ∧
      ∀ (offset : Nat) (c : Char), text[offset]? = some c →
        (∀ diagnostic ∈ complaints, (offset : Int) < diagnostic.span.start) →
        (∀ word ∈ words, ¬ word.Covers offset) → InComment text words 0 offset ∨ Idle c := by
  intro text complaints words
  have wordsEq : words = (Cursor.start text).tokens.tokens := List.dropLast_concat
  have partitioned : Partitioned text 0 (Cursor.start text).tokens :=
    @Cursor.Reads.partitioned _ _ (Cursor.start text).reads_tokens [] rfl
  refine ⟨(Scanner.ofText source).length_complaints_le_one, ?_⟩
  rw [wordsEq]
  refine ⟨rfl, partitioned.kinds, partitioned.ordered, partitioned.slices,
    fun offset c found early => ?_⟩
  refine partitioned.between offset c (Nat.zero_le _) found fun diagnostic member =>
    early diagnostic ?_
  exact List.mem_of_mem_head? member

/-- A name, an operator of two characters and a number with an underscore before a malformed one.
The plus sign in the comment is part of no token, and the dollar sign begins none. -/
theorem scan_partition_commentedSum :
    let source := "x >= 1_0 # ++\n$ 1.5.2"
    let text := source.toList
    let words := (Scanner.ofText source).tokenize.1.dropLast
    words.map Token.lexeme = ["x", ">=", "1_0"] ∧
      (Scanner.ofText source).tokenize.2 = [⟨.malformedNumber, ⟨16, 21, 2, 3⟩⟩] ∧
      (∀ word ∈ words, ∃ before after, Slice text word before after) ∧
      text[11]? = some '+' ∧ InComment text words 0 11 ∧ text[14]? = some '$' ∧ Idle '$' := by
  intro source text words
  obtain ⟨_, _, _, _, slices, between⟩ := scan_partition source
  have plus : text[11]? = some '+' := by decide +kernel
  have dollar : text[14]? = some '$' := by decide +kernel
  have early : ∀ diagnostic ∈ (Scanner.ofText source).tokenize.2,
      (14 : Int) < diagnostic.span.start := by
    decide +kernel
  have inComment : InComment text words 0 11 := by
    rcases between 11 '+' plus (by decide +kernel) (by decide +kernel) with comment | idle
    · exact comment
    · exact absurd (by decide) idle.operator
  have idle : Idle '$' := by
    rcases between 14 '$' dollar early (by decide +kernel) with ⟨hash, _, upper, found, line⟩ | idle
    · -- The one comment before it ends with its line.
      have only : ∀ place ≤ 14, text[place]? = some '#' → place = 9 := by decide +kernel
      have newline : text[13]? = some '\n' := by decide +kernel
      obtain rfl := only hash upper found
      exact absurd newline (line 13 (by decide) (by decide)).1
    · exact idle
  exact ⟨by decide +kernel, by decide +kernel, slices, plus, inComment, dollar, idle⟩

end Reckon
