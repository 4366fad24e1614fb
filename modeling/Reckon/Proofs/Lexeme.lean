/-
Module: Reckon.Proofs.Lexeme
Purpose: How a text divides into tokens, said on its own and not through the scanner. Between two
  tokens stand characters that are passed over; a lexeme is the longest of its form at its place; a
  reading of a text puts the two in turn until the text ends or a malformed lexeme stands in the
  way. The scanner gives the one reading that there is.
Main exports: Passes, LongestRun, Lexeme, Malformed, Cursor.tokenAt, Cursor.Reads, Cursor.tokens,
  Cursor.reads_tokens, Cursor.Reads.tokens_eq
-/
import Mathlib.Data.List.TakeWhile
import Reckon.Token.Scan

namespace Reckon

/-! ### Between tokens -/

/-- Characters that are passed over. They begin inside a comment or outside, and end inside one or
outside. -/
inductive Passes : (comment : Bool) → List Char → (after : Bool) → Prop where
  | nil {comment : Bool} : Passes comment [] comment
  /-- In a comment everything is passed over, and a newline ends it. -/
  | inside {c : Char} {rest : List Char} {after : Bool} (onward : Passes (c != '\n') rest after) :
      Passes true (c :: rest) after
  | outside {c : Char} {rest : List Char} {after : Bool} (plain : beginsToken c = false)
      (onward : Passes (c == '#') rest after) : Passes false (c :: rest) after

/-- What is passed over in two parts is passed over as a whole. -/
theorem Passes.append {comment between after : Bool} {passed more : List Char}
    (first : Passes comment passed between) (second : Passes between more after) :
    Passes comment (passed ++ more) after := by
  induction first with
  | nil => exact second
  | inside _ inductionHypothesis => exact .inside (inductionHypothesis second)
  | outside plain _ inductionHypothesis => exact .outside plain (inductionHypothesis second)

/-- The gap before a token reaches over everything that is passed over. -/
theorem gap_of_passes {comment after : Bool} {passed : List Char}
    (passes : Passes comment passed after) (rest : List Char) :
    gap comment (passed ++ rest) = passed.length + gap after rest := by
  induction passes with
  | nil => simp
  | inside _ inductionHypothesis =>
      rw [List.cons_append, gap, inductionHypothesis, List.length_cons]
      omega
  | outside plain _ inductionHypothesis =>
      rw [List.cons_append, gap, plain, if_neg Bool.false_ne_true, inductionHypothesis,
        List.length_cons]
      omega

theorem gap_of_beginsToken {head : Char} (begins : beginsToken head = true) (tail : List Char) :
    gap false (head :: tail) = 0 := by
  rw [gap, if_pos begins]

/-- A text is passed over up to its end or up to the next token. -/
theorem exists_passes (comment : Bool) (text : List Char) :
    (∃ after, Passes comment text after) ∨
      ∃ passed head tail, text = passed ++ head :: tail ∧ Passes comment passed false ∧
        beginsToken head = true := by
  induction text generalizing comment with
  | nil => exact .inl ⟨comment, .nil⟩
  | cons c rest inductionHypothesis =>
      -- One character is passed over in both states, unless a token begins outside a comment.
      have onward : ∀ {next}, (∀ {passed after}, Passes next passed after →
          Passes comment (c :: passed) after) →
          (∃ after, Passes comment (c :: rest) after) ∨
            ∃ passed head tail, c :: rest = passed ++ head :: tail ∧ Passes comment passed false ∧
              beginsToken head = true := by
        intro next step
        rcases inductionHypothesis next with
          ⟨after, passes⟩ | ⟨passed, head, tail, rfl, passes, begins⟩
        · exact .inl ⟨after, step passes⟩
        · exact .inr ⟨c :: passed, head, tail, rfl, step passes, begins⟩
      cases comment with
      | true => exact onward .inside
      | false =>
          cases begins : beginsToken c with
          | true => exact .inr ⟨[], c, rest, rfl, .nil, begins⟩
          | false => exact onward (.outside begins)

/-! ### Lexemes -/

/-- Characters of a class, as many as there are: what follows them does not begin with one. -/
structure LongestRun (ofClass : Char → Bool) (run rest : List Char) : Prop where
  goesOn : ∀ c ∈ run, ofClass c = true
  ends : ∀ c ∈ rest.head?, ofClass c = false

/-- A longest run is what a scan for its class takes. -/
theorem LongestRun.takeWhile_eq {ofClass : Char → Bool} {run rest : List Char}
    (longest : LongestRun ofClass run rest) : (run ++ rest).takeWhile ofClass = run := by
  have stops : rest.takeWhile ofClass = [] := by
    cases rest with
    | nil => rfl
    | cons c tail => simp [longest.ends c rfl]
  rw [List.takeWhile_append_of_pos longest.goesOn, stops, List.append_nil]

/-- What follows a longest run is what such a scan leaves. -/
theorem LongestRun.dropWhile_eq {ofClass : Char → Bool} {run rest : List Char}
    (longest : LongestRun ofClass run rest) : (run ++ rest).dropWhile ofClass = rest := by
  have parts := List.takeWhile_append_dropWhile (p := ofClass) (l := run ++ rest)
  rw [longest.takeWhile_eq] at parts
  exact List.append_cancel_left parts

/-- A scan for a class takes a longest run. -/
theorem longestRun_takeWhile (ofClass : Char → Bool) (text : List Char) :
    LongestRun ofClass (text.takeWhile ofClass) (text.dropWhile ofClass) where
  goesOn c member := List.mem_takeWhile_imp member
  ends c member := by
    have first := List.head?_dropWhile_not ofClass text
    rw [Option.mem_def.mp member] at first
    exact first

/-- The lexemes of a kind, with the text they stand for, before a given rest of the text. -/
inductive Lexeme : TokenKind → Option String → (lexeme rest : List Char) → Prop where
  /-- A symbol of one character forms no other with the character behind it. -/
  | symbol {c : Char} {kind : TokenKind} {rest : List Char} (known : symbol? c = some kind)
      (alone : ∀ next ∈ rest.head?, symbolPair? c next = none) : Lexeme kind none [c] rest
  | pair {first second : Char} {kind : TokenKind} {rest : List Char}
      (known : symbolPair? first second = some kind) : Lexeme kind none [first, second] rest
  /-- A number stands for itself without its underscores. -/
  | number {first : Char} {more rest : List Char} {kind : TokenKind} (digit : first.isDigit = true)
      (longest : LongestRun continuesNumber more rest)
      (points : kind = .integer ∧ (first :: more).count '.' = 0 ∨
        kind = .float ∧ (first :: more).count '.' = 1) :
      Lexeme kind (some (String.ofList ((first :: more).filter (· != '_')))) (first :: more) rest
  | name {first : Char} {more rest : List Char} (begins : beginsName first = true)
      (longest : LongestRun continuesName more rest) :
      Lexeme (nameKind (String.ofList (first :: more))) (some (String.ofList (first :: more)))
        (first :: more) rest
  | string {quote : Char} {body value rest : List Char} (opens : isQuote quote = true)
      (closed : stringBody quote body = .ok (value, body.length)) :
      Lexeme .string (some (String.ofList value)) (quote :: body) rest

/-- Lexemes that are no tokens. -/
inductive Malformed : Complaint → (lexeme rest : List Char) → Prop where
  | number {first : Char} {more rest : List Char} (digit : first.isDigit = true)
      (longest : LongestRun continuesNumber more rest) (points : 2 ≤ (first :: more).count '.') :
      Malformed .malformedNumber (first :: more) rest
  | string {quote : Char} {body rest : List Char} (opens : isQuote quote = true)
      (broken : stringBody quote (body ++ rest) = .error body.length) :
      Malformed .unterminatedString (quote :: body) rest

/-! ### Classes of characters -/

/-- The letters begin at the code point 65. -/
theorem isAlphabetic_of_lt {c : Char} (low : c.toNat < 65) : Text.isAlphabetic c = false := by
  unfold Text.isAlphabetic
  exact if_pos low

theorem not_beginsName_of_isDigit {c : Char} (digit : c.isDigit = true) : beginsName c = false := by
  have low : c.toNat < 65 := by
    simp only [Char.isDigit, ge_iff_le, Bool.and_eq_true, decide_eq_true_eq] at digit
    exact Nat.lt_of_le_of_lt digit.2 (by decide)
  have noUnderscore : c ≠ '_' := by
    rintro rfl
    exact absurd digit (by decide)
  simp [beginsName, isAlphabetic_of_lt low, noUnderscore]

theorem not_beginsName_of_isQuote {c : Char} (quote : isQuote c = true) :
    beginsName c = false ∧ c.isDigit = false := by
  simp only [isQuote, Bool.or_eq_true, beq_iff_eq] at quote
  rcases quote with rfl | rfl <;> decide

/-- A character that begins a name is neither a digit nor a quotation mark. -/
theorem classes_of_beginsName {c : Char} (begins : beginsName c = true) :
    c.isDigit = false ∧ isQuote c = false := by
  constructor
  · apply Bool.eq_false_iff.mpr
    intro digit
    rw [not_beginsName_of_isDigit digit] at begins
    cases begins
  · apply Bool.eq_false_iff.mpr
    intro quote
    rw [(not_beginsName_of_isQuote quote).1] at begins
    cases begins

/-- No symbol begins a number, a string or a name. -/
theorem symbol?_eq_none_of {c : Char}
    (other : c.isDigit = true ∨ isQuote c = true ∨ beginsName c = true) : symbol? c = none := by
  cases known : symbol? c with
  | none => rfl
  | some kind =>
      unfold symbol? at known
      split at known <;> cases known
      all_goals exact absurd other (by decide)

/-- The symbols of two characters begin with one of one character. -/
theorem symbol?_of_symbolPair? {first second : Char} {kind : TokenKind}
    (known : symbolPair? first second = some kind) : (symbol? first).isSome = true := by
  unfold symbolPair? at known
  split at known <;> cases known
  all_goals rfl

/-! ### Strings -/

/-- A body with one more character is closed if the body is. -/
theorem StringBody.push_eq_ok {c : Char} {width length : Nat} {body : StringBody}
    {value : List Char} (pushed : body.push c width = .ok (value, length)) :
    ∃ others shorter, body = .ok (others, shorter) ∧ value = c :: others ∧
      length = shorter + width := by
  cases body with
  | error shorter => cases pushed
  | ok parts =>
      cases pushed
      exact ⟨parts.1, parts.2, rfl, rfl, rfl⟩

/-- A body with one more character is broken where the body is, further on by the character. -/
theorem StringBody.push_eq_error {c : Char} {width length : Nat} {body : StringBody}
    (pushed : body.push c width = .error length) :
    ∃ shorter, body = .error shorter ∧ length = shorter + width := by
  cases body with
  | error shorter =>
      cases pushed
      exact ⟨shorter, rfl, rfl⟩
  | ok parts => cases pushed

section

variable {quote c : Char} (rest : List Char)

/-- The quotation mark closes the body. -/
theorem stringBody_quote (noNewline : quote ≠ '\n') :
    stringBody quote (quote :: rest) = .ok ([], 1) := by
  unfold stringBody
  rw [if_neg noNewline, if_pos rfl]

/-- A backslash and the character behind it stand for one character. -/
theorem stringBody_escape (noQuote : '\\' ≠ quote) (noNewline : c ≠ '\n') :
    stringBody quote ('\\' :: c :: rest) = (stringBody quote rest).push (unescape c) 2 := by
  rw [stringBody, if_neg (by decide), if_neg noQuote, if_pos rfl, if_neg noNewline]

/-- Any other character stands for itself. -/
theorem stringBody_plain (noNewline : c ≠ '\n') (noQuote : c ≠ quote) (noBackslash : c ≠ '\\') :
    stringBody quote (c :: rest) = (stringBody quote rest).push c 1 := by
  rw [stringBody.eq_def]
  simp only [if_neg noNewline, if_neg noQuote, if_neg noBackslash]

end

/-- A string that closes takes up a first part of the text, whatever follows it. -/
theorem exists_of_stringBody_ok {quote : Char} {text value : List Char} {length : Nat}
    (closed : stringBody quote text = .ok (value, length)) :
    ∃ body rest, text = body ++ rest ∧ body.length = length ∧
      ∀ other, stringBody quote (body ++ other) = .ok (value, length) := by
  fun_induction stringBody quote text generalizing value length with
  | case1 => cases closed
  | case2 => cases closed
  | case3 rest noNewline =>
      cases closed
      exact ⟨[quote], rest, rfl, rfl, fun other => stringBody_quote other noNewline⟩
  | case4 => cases closed
  | case5 => cases closed
  | case6 escaped rest noEscapedNewline _ noQuote inductionHypothesis =>
      obtain ⟨others, shorter, closedRest, rfl, rfl⟩ := StringBody.push_eq_ok closed
      obtain ⟨body, behind, rfl, rfl, same⟩ := inductionHypothesis closedRest
      refine ⟨'\\' :: escaped :: body, behind, rfl, rfl, fun other => ?_⟩
      rw [List.cons_append, List.cons_append, stringBody_escape _ noQuote noEscapedNewline, same]
      rfl
  | case7 c rest noNewline noQuote noBackslash inductionHypothesis =>
      obtain ⟨others, shorter, closedRest, rfl, rfl⟩ := StringBody.push_eq_ok closed
      obtain ⟨body, behind, rfl, rfl, same⟩ := inductionHypothesis closedRest
      refine ⟨c :: body, behind, rfl, rfl, fun other => ?_⟩
      rw [List.cons_append, stringBody_plain _ noNewline noQuote noBackslash, same]
      rfl

/-- What follows a closed body does not change it. -/
theorem stringBody_append {quote : Char} {body value : List Char}
    (closed : stringBody quote body = .ok (value, body.length)) (rest : List Char) :
    stringBody quote (body ++ rest) = .ok (value, body.length) := by
  obtain ⟨part, behind, rfl, lengthEq, same⟩ := exists_of_stringBody_ok closed
  obtain rfl : behind = [] := by
    rw [List.length_append] at lengthEq
    exact List.length_eq_zero_iff.mp (by omega)
  simpa using same rest

/-- A body is broken within the text. -/
theorem length_le_of_stringBody_error {quote : Char} {text : List Char} {length : Nat}
    (broken : stringBody quote text = .error length) : length ≤ text.length := by
  fun_induction stringBody quote text generalizing length with
  | case1 => cases broken; simp
  | case2 => cases broken; simp
  | case3 => cases broken
  | case4 => cases broken; simp
  | case5 => cases broken; simp
  | case6 escaped rest noEscapedNewline _ noQuote inductionHypothesis =>
      obtain ⟨shorter, brokenRest, rfl⟩ := StringBody.push_eq_error broken
      have := inductionHypothesis brokenRest
      simp only [List.length_cons]
      omega
  | case7 c rest noNewline noQuote noBackslash inductionHypothesis =>
      obtain ⟨shorter, brokenRest, rfl⟩ := StringBody.push_eq_error broken
      have := inductionHypothesis brokenRest
      simp only [List.length_cons]
      omega

/-! ### Heads of texts -/

/-- A lexeme is what the scanner finds at its place. -/
theorem Lexeme.lexHead_eq {kind : TokenKind} {value : Option String} {lexeme rest : List Char}
    (formed : Lexeme kind value lexeme rest) :
    ∃ head tail, lexeme = head :: tail ∧ beginsToken head = true ∧
      lexHead head (tail ++ rest) = ⟨.ok (kind, value), lexeme.length⟩ := by
  cases formed with
  | @symbol c _ _ known alone =>
      refine ⟨c, [], rfl, by simp [beginsToken, known], ?_⟩
      have single : rest.head?.bind (symbolPair? c) = none := by
        simpa [Option.bind_eq_none_iff] using alone
      simp [lexHead, known, lexSymbol, single]
  | @pair first second _ _ known =>
      obtain ⟨single, singleEq⟩ := Option.isSome_iff_exists.mp (symbol?_of_symbolPair? known)
      refine ⟨first, [second], rfl, by simp [beginsToken, singleEq], ?_⟩
      simp [lexHead, singleEq, lexSymbol, known]
  | @number first more _ _ digit longest points =>
      refine ⟨first, more, rfl, by simp [beginsToken, digit], ?_⟩
      have noSymbol := symbol?_eq_none_of (.inl digit)
      rcases points with ⟨rfl, none⟩ | ⟨rfl, one⟩
      · simp only [lexHead, noSymbol, digit, if_true, lexNumber, longest.takeWhile_eq, none]
      · simp only [lexHead, noSymbol, digit, if_true, lexNumber, longest.takeWhile_eq, one]
  | @name first more _ begins longest =>
      refine ⟨first, more, rfl, by simp [beginsToken, begins], ?_⟩
      have noSymbol := symbol?_eq_none_of (.inr (.inr begins))
      obtain ⟨noDigit, noQuote⟩ := classes_of_beginsName begins
      simp [lexHead, noSymbol, noDigit, noQuote, lexName, longest.takeWhile_eq]
  | @string quote body value _ opens closed =>
      refine ⟨quote, body, rfl, by simp [beginsToken, opens], ?_⟩
      have noSymbol := symbol?_eq_none_of (.inr (.inl opens))
      have noDigit := (not_beginsName_of_isQuote opens).2
      simp [lexHead, noSymbol, noDigit, opens, lexString, stringBody_append closed]

/-- So is a malformed lexeme. -/
theorem Malformed.lexHead_eq {complaint : Complaint} {lexeme rest : List Char}
    (broken : Malformed complaint lexeme rest) :
    ∃ head tail, lexeme = head :: tail ∧ beginsToken head = true ∧
      lexHead head (tail ++ rest) = ⟨.error complaint, lexeme.length⟩ := by
  cases broken with
  | @number first more _ digit longest points =>
      refine ⟨first, more, rfl, by simp [beginsToken, digit], ?_⟩
      have noSymbol := symbol?_eq_none_of (.inl digit)
      obtain ⟨count, countEq⟩ := Nat.exists_eq_add_of_le' points
      simp only [lexHead, noSymbol, digit, if_true, lexNumber, longest.takeWhile_eq, countEq]
  | @string quote body _ opens broken =>
      refine ⟨quote, body, rfl, by simp [beginsToken, opens], ?_⟩
      have noSymbol := symbol?_eq_none_of (.inr (.inl opens))
      have noDigit := (not_beginsName_of_isQuote opens).2
      simp [lexHead, noSymbol, noDigit, opens, lexString, broken]

/-- A text that begins with a token begins with a lexeme, well formed or not. -/
theorem exists_lexeme {head : Char} (begins : beginsToken head = true) (tail : List Char) :
    ∃ lexeme rest, head :: tail = lexeme ++ rest ∧
      ((∃ complaint, Malformed complaint lexeme rest) ∨
        ∃ kind value, Lexeme kind value lexeme rest) := by
  cases known : symbol? head with
  | some kind =>
      cases tail with
      | nil => exact ⟨[head], [], rfl, .inr ⟨kind, none, .symbol known (by simp)⟩⟩
      | cons next tail =>
          cases paired : symbolPair? head next with
          | some pair => exact ⟨[head, next], tail, rfl, .inr ⟨pair, none, .pair paired⟩⟩
          | none =>
              refine ⟨[head], next :: tail, rfl, .inr ⟨kind, none, .symbol known ?_⟩⟩
              intro other member
              cases member
              exact paired
  | none =>
      simp only [beginsToken, known, Option.isSome_none, Bool.false_or, Bool.or_eq_true] at begins
      rcases begins with (digit | name) | quote
      · have longest := longestRun_takeWhile continuesNumber tail
        refine ⟨head :: tail.takeWhile continuesNumber, tail.dropWhile continuesNumber, ?_, ?_⟩
        · rw [List.cons_append, List.takeWhile_append_dropWhile]
        · match points : (head :: tail.takeWhile continuesNumber).count '.' with
          | 0 => exact .inr ⟨_, _, .number digit longest (.inl ⟨rfl, points⟩)⟩
          | 1 => exact .inr ⟨_, _, .number digit longest (.inr ⟨rfl, points⟩)⟩
          | count + 2 => exact .inl ⟨_, .number digit longest (by omega)⟩
      · refine ⟨head :: tail.takeWhile continuesName, tail.dropWhile continuesName, ?_, ?_⟩
        · rw [List.cons_append, List.takeWhile_append_dropWhile]
        · exact .inr ⟨_, _, .name name (longestRun_takeWhile continuesName tail)⟩
      · cases read : stringBody head tail with
        | error length =>
            have within := length_le_of_stringBody_error read
            refine ⟨head :: tail.take length, tail.drop length, ?_, .inl ⟨_, .string quote ?_⟩⟩
            · rw [List.cons_append, List.take_append_drop]
            · rw [List.take_append_drop, read, List.length_take, Nat.min_eq_left within]
        | ok parts =>
            obtain ⟨body, rest, rfl, lengthEq, same⟩ := exists_of_stringBody_ok read
            refine ⟨head :: body, rest, rfl,
              .inr ⟨_, some (String.ofList parts.1), .string quote ?_⟩⟩
            rw [lengthEq]
            simpa using same []

/-! ### Readings -/

namespace Cursor

theorem offset_next {c : Cursor} (more : c.rest ≠ []) : c.next.offset = c.offset + 1 := by
  unfold next
  split
  · contradiction
  · rfl
  · rfl

/-- Skipping counts the characters that are skipped. -/
theorem offset_skip {n : Nat} {c : Cursor} (within : n ≤ c.rest.length) :
    (c.skip n).offset = c.offset + n := by
  induction n generalizing c with
  | zero => rfl
  | succ n inductionHypothesis =>
      have more : c.rest ≠ [] := List.ne_nil_of_length_pos (by omega)
      have shorter : n ≤ c.next.rest.length := by
        rw [rest_next, List.length_drop]
        omega
      rw [skip, inductionHypothesis shorter, offset_next more]
      omega

/-- The token that a lexeme at a place makes. A symbol of one character stops where it starts. -/
def tokenAt (c : Cursor) (kind : TokenKind) (value : Option String) (lexeme : List Char) : Token :=
  ⟨kind, value, String.ofList lexeme,
    if value.isNone && lexeme.length == 1 then c.pointSpan else c.spanOf lexeme.length⟩

section TokenAt

variable (c : Cursor) (kind : TokenKind) (value : Option String) (lexeme : List Char)

@[simp] theorem tokenAt_kind : (c.tokenAt kind value lexeme).kind = kind :=
  rfl

@[simp] theorem toList_lexeme_tokenAt : (c.tokenAt kind value lexeme).lexeme.toList = lexeme :=
  String.toList_ofList

@[simp] theorem length_lexeme_tokenAt :
    (c.tokenAt kind value lexeme).lexeme.length = lexeme.length :=
  String.length_ofList

@[simp] theorem start_tokenAt : (c.tokenAt kind value lexeme).span.start = c.offset := by
  unfold tokenAt
  split <;> rfl

end TokenAt

/-- The readings of a text from a place on. -/
inductive Reads : Cursor → Scanned → Prop where
  | nothing {c : Cursor} {after : Bool} (passes : Passes false c.rest after) : Reads c ⟨[], none⟩
  | malformed {c : Cursor} {passed lexeme rest : List Char} {complaint : Complaint}
      (parts : c.rest = passed ++ (lexeme ++ rest)) (passes : Passes false passed false)
      (broken : Malformed complaint lexeme rest) :
      Reads c ⟨[], some ⟨complaint, (c.skip passed.length).spanOf lexeme.length⟩⟩
  | token {c : Cursor} {passed lexeme rest : List Char} {kind : TokenKind} {value : Option String}
      {others : Scanned} (parts : c.rest = passed ++ (lexeme ++ rest))
      (passes : Passes false passed false) (formed : Lexeme kind value lexeme rest)
      (onward : Reads ((c.skip passed.length).skip lexeme.length) others) :
      Reads c ⟨(c.skip passed.length).tokenAt kind value lexeme :: others.tokens, others.complaint?⟩

section Single

variable {c : Cursor} {passed lexeme rest : List Char}

theorem rest_skip_passed (parts : c.rest = passed ++ rest) :
    (c.skip passed.length).rest = rest := by
  rw [rest_skip, parts, List.drop_left]

/-- There is no token if everything is passed over. -/
theorem token?_of_passes {after : Bool} (passes : Passes false c.rest after) : c.token? = none := by
  have whole := gap_of_passes passes []
  rw [List.append_nil, gap, Nat.add_zero] at whole
  have ended : (c.skip c.rest.length).rest = [] := by rw [rest_skip, List.drop_length]
  simp only [token?, whole, ended]

theorem gap_of_parts {head : Char} {tail : List Char} (parts : c.rest = passed ++ head :: tail)
    (passes : Passes false passed false) (begins : beginsToken head = true) :
    gap false c.rest = passed.length := by
  rw [parts, gap_of_passes passes, gap_of_beginsToken begins, Nat.add_zero]

/-- Behind what is passed over, a malformed lexeme is complained about as a whole. -/
theorem token?_of_malformed {complaint : Complaint} (parts : c.rest = passed ++ (lexeme ++ rest))
    (passes : Passes false passed false) (broken : Malformed complaint lexeme rest) :
    c.token? = some (.error ⟨complaint, (c.skip passed.length).spanOf lexeme.length⟩,
      (c.skip passed.length).skip lexeme.length) := by
  obtain ⟨head, tail, rfl, begins, found⟩ := broken.lexHead_eq
  have here := rest_skip_passed parts
  rw [List.cons_append] at parts here
  simp only [token?, gap_of_parts parts passes begins, here, found]

/-- Behind what is passed over, a lexeme is taken as a token. -/
theorem token?_of_lexeme {kind : TokenKind} {value : Option String}
    (parts : c.rest = passed ++ (lexeme ++ rest)) (passes : Passes false passed false)
    (formed : Lexeme kind value lexeme rest) :
    c.token? = some (.ok ((c.skip passed.length).tokenAt kind value lexeme),
      (c.skip passed.length).skip lexeme.length) := by
  obtain ⟨head, tail, rfl, begins, found⟩ := formed.lexHead_eq
  have here := rest_skip_passed parts
  rw [List.cons_append] at parts here
  have taken : (head :: (tail ++ rest)).take (head :: tail).length = head :: tail :=
    List.take_left
  simp only [token?, gap_of_parts parts passes begins, here, found, taken, tokenAt]

end Single

/-! ### Scanners -/

end Cursor

namespace Scanner

theorem results_of_none {s after : Scanner} (found : s.next = (none, after)) : s.results = [] := by
  rw [results]
  split <;> simp_all

/-- The results of a scanner are its next one and those after it. -/
theorem results_of_some {s after : Scanner} {result : Except Diagnostic Token}
    (found : s.next = (some result, after)) : s.results = result :: after.results := by
  rw [results]
  split <;> simp_all

/-- A complaint brings a scanner to its end. -/
theorem results_of_halted {s : Scanner} (halted : s.halted = true) : s.results = [] := by
  have nothing : s.next = (none, s) := if_pos halted
  exact results_of_none nothing

end Scanner

namespace Cursor

/-- All tokens from a place on, without the token that ends the program, and the complaint that
ended them. -/
def tokens (c : Cursor) : Scanned :=
  ⟨(Scanner.mk c false).results.filterMap Except.toOption,
    ((Scanner.mk c false).results.filterMap Scanner.complaintOf?).head?⟩

/-- After a complaint a scanner gives nothing more. -/
theorem results_of_error {c after : Cursor} {diagnostic : Diagnostic}
    (found : c.token? = some (.error diagnostic, after)) :
    (Scanner.mk c false).results = [.error diagnostic] := by
  have next : (Scanner.mk c false).next = (some (.error diagnostic), ⟨after, true⟩) := by
    simp [Scanner.next, found]
  rw [Scanner.results_of_some next, Scanner.results_of_halted rfl]

theorem results_of_ok {c after : Cursor} {token : Token}
    (found : c.token? = some (.ok token, after)) :
    (Scanner.mk c false).results = .ok token :: (Scanner.mk after false).results :=
  Scanner.results_of_some (by simp [Scanner.next, found])

theorem tokens_of_none {c : Cursor} (found : c.token? = none) : c.tokens = ⟨[], none⟩ := by
  have next : (Scanner.mk c false).next = (none, ⟨c, false⟩) := by simp [Scanner.next, found]
  rw [tokens, Scanner.results_of_none next]
  rfl

theorem tokens_of_error {c after : Cursor} {diagnostic : Diagnostic}
    (found : c.token? = some (.error diagnostic, after)) : c.tokens = ⟨[], some diagnostic⟩ := by
  rw [tokens, results_of_error found]
  rfl

/-- A token comes before the tokens behind it. -/
theorem tokens_of_ok {c after : Cursor} {token : Token}
    (found : c.token? = some (.ok token, after)) :
    c.tokens = ⟨token :: after.tokens.tokens, after.tokens.complaint?⟩ := by
  rw [tokens, results_of_ok found]
  rfl

/-- The scanner gives every reading, so there is no second one. -/
theorem Reads.tokens_eq {c : Cursor} {scanned : Scanned} (reads : c.Reads scanned) :
    c.tokens = scanned := by
  induction reads with
  | nothing passes => exact tokens_of_none (token?_of_passes passes)
  | malformed parts passes broken => exact tokens_of_error (token?_of_malformed parts passes broken)
  | token parts passes formed _ inductionHypothesis =>
      rw [tokens_of_ok (token?_of_lexeme parts passes formed), inductionHypothesis]

/-- What the scanner gives is a reading. The induction is on what is left of the text, of which
every lexeme takes up a part. -/
theorem reads_tokens (c : Cursor) : c.Reads c.tokens := by
  rcases exists_passes false c.rest with
    ⟨after, passes⟩ | ⟨passed, head, tail, parts, passes, begins⟩
  · rw [tokens_of_none (token?_of_passes passes)]
    exact .nothing passes
  · obtain ⟨lexeme, rest, split, ⟨complaint, broken⟩ | ⟨kind, value, formed⟩⟩ :=
      exists_lexeme begins tail
    · rw [split] at parts
      rw [tokens_of_error (token?_of_malformed parts passes broken)]
      exact .malformed parts passes broken
    · rw [split] at parts
      have found := token?_of_lexeme parts passes formed
      have shorter := rest_length_lt_of_token? found
      rw [tokens_of_ok found]
      exact .token parts passes formed (reads_tokens _)
termination_by c.rest.length

end Cursor

/-- A scan gives the tokens of the text, the end of the input, and the complaint, if there is
one. -/
theorem scan_eq (source : String) :
    scan source = ⟨(Cursor.start source.toList).tokens.tokens ++ [.endOfInput],
      (Cursor.start source.toList).tokens.complaint?⟩ :=
  rfl

end Reckon
