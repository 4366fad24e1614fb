/-
Module: Reckon.Proofs.NumberLiterals
Purpose: What numbers in a text stand for. Without a point a number stands for the value of its
  digits, if that is a 64-bit integer; behind a minus sign the magnitude of the least integer counts
  too. With one point it always stands for a float, so no text is refused for a malformed one; with
  more points it is no number.
Main exports: Numeral, Numeral.magnitude, Numeral.negated, Raised.text_ne,
  RefusedWith, evaluate_numerals
-/
import Reckon.Proofs.Digits
import Reckon.Proofs.IntegerArithmetic
import Reckon.Proofs.LayoutIndependence
import Reckon.Proofs.LineBreaks
import Reckon.Proofs.Messages
import Reckon.Proofs.Partition
import Reckon.Proofs.RaisedComplaints
import Reckon.Proofs.SingleExpression

namespace Reckon

/-! ### Numbers in a text -/

/-- The characters of a number: a digit, and behind it digits, underscores and points. -/
structure Numeral where
  first : Char
  more : List Char
  digit : first.isDigit = true
  goesOn : ∀ c ∈ more, c.isDigit = true ∨ c = '_' ∨ c = '.'

namespace Numeral

variable (n : Numeral)

/-- The characters in their order. -/
def chars : List Char :=
  n.first :: n.more

/-- The text of a number. -/
def text : String :=
  String.ofList n.chars

/-- How many points it has. -/
def points : Nat :=
  n.chars.count '.'

/-- The characters that are left without the underscores. -/
def ungrouped : List Char :=
  n.chars.filter (· != '_')

/-- The value of the digits, if there are no points. -/
def magnitude : Nat :=
  digitsValue n.ungrouped

/-- Everything behind the first digit of a numeral goes on with it. -/
theorem longestRun : LongestRun continuesNumber n.more [] where
  goesOn c member := by
    rcases n.goesOn c member with digit | rfl | rfl
    · simp [continuesNumber, digit]
    · rfl
    · rfl
  ends c member := by cases member

/-- Taking out the underscores leaves the first digit at the head. -/
theorem ungrouped_eq_cons : n.ungrouped = n.first :: n.more.filter (· != '_') := by
  have noUnderscore : n.first ≠ '_' := ne_of_isDigit n.digit (by decide)
  simp [ungrouped, chars, noUnderscore]

/-- Without underscores, digits and points are left. -/
theorem isDigit_of_mem_ungrouped {c : Char} (member : c ∈ n.ungrouped) :
    c.isDigit = true ∨ c = '.' := by
  obtain ⟨inChars, noUnderscore⟩ := List.mem_filter.mp member
  rcases List.mem_cons.mp inChars with rfl | later
  · exact .inl n.digit
  · rcases n.goesOn c later with digit | rfl | point
    · exact .inl digit
    · cases noUnderscore
    · exact .inr point

/-- Taking out the underscores leaves all points. -/
theorem count_ungrouped : n.ungrouped.count '.' = n.points :=
  List.count_filter (by decide)

/-- Without a point there are digits only. -/
theorem digits_of_points (noPoints : n.points = 0) : ∀ c ∈ n.ungrouped, c.isDigit = true := by
  rw [← count_ungrouped, List.count_eq_zero] at noPoints
  intro c member
  rcases n.isDigit_of_mem_ungrouped member with digit | rfl
  · exact digit
  · exact absurd member noPoints

/-- A single point parts the digits. -/
theorem exists_parts (one : n.points = 1) :
    ∃ whole fraction, n.ungrouped = whole ++ '.' :: fraction ∧ whole ≠ [] ∧
      (∀ c ∈ whole, c.isDigit = true) ∧ ∀ c ∈ fraction, c.isDigit = true := by
  rw [← count_ungrouped] at one
  have member : '.' ∈ n.ungrouped := List.count_pos_iff.mp (by omega)
  obtain ⟨whole, fraction, parts⟩ := List.append_of_mem member
  have noneLeft : whole.count '.' = 0 ∧ fraction.count '.' = 0 := by
    rw [parts, List.count_append, List.count_cons_self] at one
    omega
  rw [List.count_eq_zero, List.count_eq_zero] at noneLeft
  have digits : ∀ c ∈ n.ungrouped, c ≠ '.' → c.isDigit = true :=
    fun c inside noPoint => (n.isDigit_of_mem_ungrouped inside).resolve_right noPoint
  refine ⟨whole, fraction, parts, ?_, fun c inside => ?_, fun c inside => ?_⟩
  · rintro rfl
    rw [ungrouped_eq_cons] at parts
    exact ne_of_isDigit n.digit (by decide) (List.cons.inj parts).1
  · apply digits c (by rw [parts]; exact List.mem_append_left _ inside)
    rintro rfl
    exact noneLeft.1 inside
  · apply digits c (by rw [parts]; exact List.mem_append_right _ (List.mem_cons_of_mem _ inside))
    rintro rfl
    exact noneLeft.2 inside

/-- A numeral without a point is read as its magnitude. -/
theorem readNat?_ungrouped (noPoints : n.points = 0) : readNat? n.ungrouped = some n.magnitude :=
  readNat?_of_digits (by simp [ungrouped_eq_cons]) (n.digits_of_points noPoints)

/-- A numeral with one point is read as a float. -/
theorem isSome_readFloat?_ungrouped (one : n.points = 1) :
    ∃ x, readFloat? n.ungrouped = some x := by
  obtain ⟨whole, fraction, parts, nonempty, wholeDigits, fractionDigits⟩ := n.exists_parts one
  rw [parts]
  exact ⟨_, readFloat?_of_parts nonempty wholeDigits fractionDigits⟩

/-! ### Integers -/

/-- The token that a number is. -/
def token (kind : TokenKind) (span : Span) : Token :=
  ⟨kind, some (String.ofList n.ungrouped), n.text, span⟩

/-- The token of a numeral without a point is an integer literal, if the magnitude is in range. -/
theorem literal_integer (noPoints : n.points = 0) {z : Int64}
    (inRange : int64? n.magnitude = some z) (span : Span) :
    Grammar.literal (n.token .integer span) = .ok (.integer z) := by
  have read := Grammar.readInt?_of_readNat? (n.readNat?_ungrouped noPoints)
  simp [Grammar.literal, token, read, inRange]

/-- The token of a numeral without a point is refused beyond the range. -/
theorem literal_tooLarge (noPoints : n.points = 0) (outside : int64? n.magnitude = none)
    (span : Span) : Grammar.literal (n.token .integer span) = .error (.integerTooLarge n.text) := by
  have read := Grammar.readInt?_of_readNat? (n.readNat?_ungrouped noPoints)
  simp [Grammar.literal, token, read, outside]

/-- The token of a numeral is the magnitude of the least integer if the number is. -/
theorem isLeastMagnitude_token (noPoints : n.points = 0) (span : Span) :
    Grammar.isLeastMagnitude (n.token .integer span) = true ↔ n.magnitude = 2 ^ 63 := by
  simp [Grammar.isLeastMagnitude, token, n.readNat?_ungrouped noPoints]

theorem lexeme_integer (noPoints : n.points = 0) :
    Lexeme .integer (some (String.ofList n.ungrouped)) n.chars [] :=
  .number n.digit n.longestRun (.inl ⟨rfl, noPoints⟩)

/-- A numeral without a point is scanned as one integer. -/
theorem scan_integer (noPoints : n.points = 0) :
    scan n.text = ⟨[n.token .integer ⟨0, n.text.length, 1, 1⟩, .endOfInput], none⟩ := by
  rw [text, scan_of_lexeme (n.lexeme_integer noPoints)]
  simp [Cursor.tokenAt, Cursor.spanOf, Cursor.start, token, text]

/-- A number behind a minus sign and some spaces. -/
def negated (spaces : Nat) : String :=
  "-" ++ String.ofList (List.replicate spaces ' ') ++ n.text

end Numeral

theorem layout_spaces (spaces : Nat) : Layout (List.replicate spaces ' ') := by
  induction spaces with
  | zero => exact .nil
  | succ spaces inductionHypothesis => exact .blank (by decide) inductionHypothesis

theorem head?_spaces_append {spaces : Nat} {rest : List Char} {other : Char} (noSpace : ' ' ≠ other)
    (plain : rest.head? ≠ some other) : (List.replicate spaces ' ' ++ rest).head? ≠ some other := by
  cases spaces with
  | zero => exact plain
  | succ spaces => simpa [List.replicate_succ] using noSpace

/-- Spaces move a cursor on within its line. -/
theorem Cursor.skip_spaces {c : Cursor} {spaces : Nat} {rest : List Char}
    (here : c.rest = List.replicate spaces ' ' ++ rest) (plain : rest.head? ≠ some '\n') :
    c.skip spaces = ⟨rest, c.offset + spaces, c.line, c.column + spaces⟩ := by
  induction spaces generalizing c with
  | zero =>
      rw [List.replicate_zero, List.nil_append] at here
      rw [← here]
      rfl
  | succ spaces inductionHypothesis =>
      rw [List.replicate_succ, List.cons_append] at here
      have step := next_of_plain here (head?_spaces_append (by decide) plain)
      rw [skip, step, inductionHypothesis rfl]
      simp only [Cursor.mk.injEq, true_and]
      omega

/-- A minus sign is a symbol of its own, unless another stands behind it. -/
theorem lexeme_minus {rest : List Char} (noOther : rest.head? ≠ some '-') :
    Lexeme .minus none ['-'] rest := by
  refine .symbol rfl fun c member => ?_
  have other : c ≠ '-' := by
    rintro rfl
    exact noOther member
  unfold symbolPair?
  split <;> simp_all

namespace Numeral

variable (n : Numeral)

/-- A minus sign, spaces and a numeral are scanned as two tokens. -/
theorem scan_negated (noPoints : n.points = 0) (spaces : Nat) :
    scan (n.negated spaces) =
      ⟨[⟨.minus, none, "-", .point 0 1 1⟩,
        n.token .integer ⟨spaces + 1, spaces + 1 + n.text.length, 1, spaces + 2⟩, .endOfInput],
          none⟩ := by
  have textEq : (n.negated spaces).toList = '-' :: (List.replicate spaces ' ' ++ n.chars) := by
    simp [negated, text, String.toList_append]
  have noNewline : n.chars.head? ≠ some '\n' := by
    simpa [chars] using ne_of_isDigit n.digit (by decide)
  have noMinus : n.chars.head? ≠ some '-' := by
    simpa [chars] using ne_of_isDigit n.digit (by decide)
  have sign : Lexeme .minus none ['-'] (List.replicate spaces ' ' ++ n.chars) :=
    lexeme_minus (head?_spaces_append (by decide) noMinus)
  have blank : Passes false (List.replicate spaces ' ') false := (layout_spaces spaces).passes
  have atSign : (Cursor.start (n.negated spaces).toList).skip 1 =
      ⟨List.replicate spaces ' ' ++ n.chars, 1, 1, 2⟩ :=
    Cursor.next_of_plain textEq (head?_spaces_append (by decide) noNewline)
  have atNumber : ((Cursor.start (n.negated spaces).toList).skip 1).skip spaces =
      ⟨n.chars, 1 + spaces, 1, 2 + spaces⟩ := by
    rw [atSign]
    exact Cursor.skip_spaces rfl noNewline
  have numberReads : ((Cursor.start (n.negated spaces).toList).skip 1).Reads
      ⟨[n.token .integer ⟨spaces + 1, spaces + 1 + n.text.length, 1, spaces + 2⟩], none⟩ := by
    have here : ((Cursor.start (n.negated spaces).toList).skip 1).rest =
        List.replicate spaces ' ' ++ n.chars := by
      rw [atSign]
    have reads := Cursor.reads_of_lexeme here blank (n.lexeme_integer noPoints)
    rw [List.length_replicate, atNumber] at reads
    simpa [Cursor.tokenAt, Cursor.spanOf, token, text, Int.add_comm] using reads
  have parts : (Cursor.start (n.negated spaces).toList).rest =
      [] ++ (['-'] ++ (List.replicate spaces ' ' ++ n.chars)) := textEq
  have reads := Cursor.Reads.token parts .nil sign numberReads
  rw [scan_eq, reads.tokens_eq]
  rfl

end Numeral

/-! ### Reading numbers -/

namespace Grammar

/-- A token that is no literal and opens no group is refused where it stands. -/
theorem primary_of_noLiteral {nested : Option Parse} {token : Token} {rest : List Token}
    {complaint : Complaint} (noParen : token.kind ≠ .leftParen)
    (refused : literal token = .error complaint) :
    primary nested (token :: rest) = .error ⟨complaint, token.span⟩ := by
  simp [primary, take?_of_kind_ne noParen, leaf, refused]

/-- What an operand behind a minus sign is refused for, unless the two are the least integer. -/
theorem signed_of_minus {nested : Option Parse} {sign token : Token} {rest : List Token}
    {diagnostic : Diagnostic} (minus : sign.kind = .minus)
    (notLeast : isLeastMagnitude token = false)
    (refused : primary nested (token :: rest) = .error diagnostic) :
    signed nested (sign :: token :: rest) = .error diagnostic := by
  have noPlus : sign.kind ≠ .plus := by
    rw [minus]
    decide
  simp [signed, take?_of_kind_ne noPlus, take?_of_kind minus, takeLeast?, notLeast, refused]

end Grammar

namespace Numeral

open Grammar

variable (n : Numeral)

/-- A numeral without a point is evaluated to its magnitude, if that is in range. -/
theorem evaluate_text (noPoints : n.points = 0) {z : Int64}
    (inRange : int64? n.magnitude = some z) : evaluate n.text = .ok [.integer z] :=
  evaluate_of_written (n.scan_integer noPoints) (.literal (n.literal_integer noPoints inRange _))
    (Nat.zero_le _) (show (Expr.value .endOfInput (.integer z)).fold = _ from rfl)

/-- A numeral without a point is refused beyond the range, and the complaint covers it. -/
theorem evaluate_text_tooLarge (noPoints : n.points = 0) (outside : int64? n.magnitude = none) :
    evaluate n.text = .error (.refused ⟨.integerTooLarge n.text, ⟨0, n.text.length, 1, 1⟩⟩) := by
  apply evaluate_of_signed_error (n.scan_integer noPoints) (by simp [token])
  rw [signed_of_kind_ne (by simp [token]) (by simp [token])]
  exact primary_of_noLiteral (by simp [token]) (n.literal_tooLarge noPoints outside _)

/-- Behind a minus sign a number stands for the opposite of its magnitude, if the magnitude is in
range. -/
theorem evaluate_negated (noPoints : n.points = 0) (spaces : Nat) {z w : Int64}
    (inRange : int64? n.magnitude = some z) (opposite : int64? (-n.magnitude) = some w) :
    evaluate (n.negated spaces) = .ok [.integer w] := by
  have written : Written 0 0 (.unary .minus .endOfInput (.value .endOfInput (.integer z)))
      [⟨.minus, none, "-", .point 0 1 1⟩,
        n.token .integer ⟨spaces + 1, spaces + 1 + n.text.length, 1, spaces + 2⟩] :=
    .unary (Nat.zero_le _) rfl (.literal (n.literal_integer noPoints inRange _))
  have negated : Value.unary .minus (.integer z) = .ok (.integer w) := by
    simp only [Value.unary, Value.exact, Integer.toInt_of_int64? inRange, opposite]
  apply evaluate_of_written (n.scan_negated noPoints spaces) written (Nat.zero_le _)
  simp only [Expr.fold, Expr.foldUnary, Value.narrow, negated]
  rfl

/-- The least integer has a magnitude that is out of range without its sign. -/
theorem evaluate_negated_least (noPoints : n.points = 0) (spaces : Nat)
    (least : n.magnitude = 2 ^ 63) :
    evaluate (n.negated spaces) = .ok [.integer Int64.minValue] := by
  have written : Written 0 0 (.value .endOfInput (.integer Int64.minValue))
      [⟨.minus, none, "-", .point 0 1 1⟩,
        n.token .integer ⟨spaces + 1, spaces + 1 + n.text.length, 1, spaces + 2⟩] :=
    .least (Nat.zero_le _) rfl ((n.isLeastMagnitude_token noPoints _).mpr least)
  exact evaluate_of_written (n.scan_negated noPoints spaces) written (Nat.zero_le _) rfl

/-- Behind a minus sign, a magnitude beyond that of the least integer is refused. -/
theorem evaluate_negated_tooLarge (noPoints : n.points = 0) (spaces : Nat)
    (large : 2 ^ 63 < n.magnitude) (outside : int64? n.magnitude = none) :
    evaluate (n.negated spaces) = .error (.refused ⟨.integerTooLarge n.text,
      ⟨spaces + 1, spaces + 1 + n.text.length, 1, spaces + 2⟩⟩) := by
  apply evaluate_of_signed_error (n.scan_negated noPoints spaces) (by simp)
  apply signed_of_minus rfl
  · rw [Bool.eq_false_iff, Ne, n.isLeastMagnitude_token noPoints]
    omega
  · exact primary_of_noLiteral (by simp [token]) (n.literal_tooLarge noPoints outside _)

/-! ### Floats -/

theorem literal_float {x : Float} (read : readFloat? n.ungrouped = some x) (span : Span) :
    literal (n.token .float span) = .ok (.float x) := by
  simp [literal, token, read]

/-- A numeral with one point is scanned as one float. -/
theorem scan_float (one : n.points = 1) :
    scan n.text = ⟨[n.token .float ⟨0, n.text.length, 1, 1⟩, .endOfInput], none⟩ := by
  have formed : Lexeme .float (some (String.ofList n.ungrouped)) n.chars [] :=
    .number n.digit n.longestRun (.inr ⟨rfl, one⟩)
  rw [text, scan_of_lexeme formed]
  simp [Cursor.tokenAt, Cursor.spanOf, Cursor.start, token, text]

/-- A numeral with one point is evaluated to a float, or to an integer if the float is one. -/
theorem evaluate_float (one : n.points = 1) :
    ∃ x, evaluate n.text = .ok [(Value.float x).narrow] := by
  obtain ⟨x, read⟩ := n.isSome_readFloat?_ungrouped one
  exact ⟨x, evaluate_of_written (n.scan_float one) (.literal (n.literal_float read _))
    (Nat.zero_le _) (show (Expr.value .endOfInput (.float x)).fold = _ from rfl)⟩

/-- A numeral with several points is refused by the scanner. -/
theorem evaluate_malformed (several : 2 ≤ n.points) :
    evaluate n.text = .error (.refused ⟨.malformedNumber, ⟨0, n.text.length, 1, 1⟩⟩) := by
  have broken : Malformed .malformedNumber n.chars [] := .number n.digit n.longestRun several
  rw [evaluate_eq_outcome, text, scan_of_malformed broken, String.length_ofList]
  rfl

/-- Every natural number is written without points and underscores. -/
theorem exists_text_eq (k : Nat) :
    ∃ n : Numeral, n.text = toString k ∧ n.points = 0 ∧ n.magnitude = k := by
  have noOther {other : Char} (noDigit : other.isDigit = false) : ∀ c ∈ Nat.toDigits 10 k,
      c ≠ other :=
    fun c member => ne_of_isDigit (isDigit_of_mem_toDigits member) noDigit
  have areDigits : ∀ c ∈ Nat.toDigits 10 k, c.isDigit = true := fun _ => isDigit_of_mem_toDigits
  obtain ⟨first, more, digitsEq⟩ :=
    List.exists_cons_of_ne_nil (Nat.toDigits_ne_nil (n := k) (b := 10))
  rw [digitsEq] at areDigits
  have digit : first.isDigit = true := areDigits first List.mem_cons_self
  refine ⟨⟨first, more, digit, fun c member => .inl (areDigits c (List.mem_cons_of_mem _ member))⟩,
    ?_, ?_, ?_⟩
  · rw [text, chars, ← digitsEq]
    exact (Nat.repr_eq_ofList_toDigits).symm
  · rw [points, chars, ← digitsEq, List.count_eq_zero]
    exact fun member => noOther (by decide) '.' member rfl
  · have ungroupedEq : (Nat.toDigits 10 k).filter (· != '_') = Nat.toDigits 10 k :=
      List.filter_eq_self.mpr fun c member => bne_iff_ne.mpr (noOther (by decide) c member)
    rw [magnitude, ungrouped, chars, ← digitsEq, ungroupedEq, digitsValue_toDigits]

end Numeral

/-! ### No malformed floats -/

open Grammar

/-- Every token that is scanned has the form of a lexeme. -/
theorem Cursor.Reads.lexeme_of_mem {c : Cursor} {scanned : Scanned} (reads : c.Reads scanned)
    {token : Token} (member : token ∈ scanned.tokens) :
    ∃ lexeme rest, Lexeme token.kind token.value lexeme rest := by
  induction reads with
  | nothing | malformed => cases member
  | @token c passed lexeme rest kind value others _ _ formed _ inductionHypothesis =>
      rcases List.mem_cons.mp member with rfl | later
      · exact ⟨lexeme, rest, formed⟩
      · exact inductionHypothesis later

theorem cases_of_continuesNumber {c : Char} (continued : continuesNumber c = true) :
    c.isDigit = true ∨ c = '_' ∨ c = '.' := by
  simp only [continuesNumber, Bool.or_eq_true, beq_iff_eq] at continued
  rcases continued with (digit | point) | underscore
  · exact .inl digit
  · exact .inr (.inr point)
  · exact .inr (.inl underscore)

/-- The characters of a float are those of a number with one point. -/
theorem Lexeme.exists_numeral {kind : TokenKind} {value : Option String} {lexeme rest : List Char}
    (formed : Lexeme kind value lexeme rest) (isFloat : kind = .float) :
    ∃ n : Numeral, n.points = 1 ∧ value = some (String.ofList n.ungrouped) := by
  cases formed with
  | @symbol c _ _ known _ =>
      subst isFloat
      have listed : operatorKind? [c] = some .float := known
      exact absurd (kind_of_operator (mem_operators_iff.mpr listed)).2.1 (by decide)
  | @pair first second _ _ known =>
      subst isFloat
      have listed : operatorKind? [first, second] = some .float := known
      exact absurd (kind_of_operator (mem_operators_iff.mpr listed)).2.1 (by decide)
  | @number first more _ _ digit longest points =>
      have one : (first :: more).count '.' = 1 := by
        rcases points with ⟨rfl, _⟩ | ⟨_, one⟩
        · cases isFloat
        · exact one
      exact ⟨⟨first, more, digit, fun c member => cases_of_continuesNumber
        (longest.goesOn c member)⟩, one, rfl⟩
  | @name first more _ _ _ =>
      have isName := nameKind_isName (String.ofList (first :: more))
      rw [isFloat] at isName
      cases isName
  | string _ _ => cases isFloat

/-- Why a token stands for no literal. -/
theorem literal_eq_error {token : Token} {complaint : Complaint}
    (refused : literal token = .error complaint) :
    complaint = .integerTooLarge token.lexeme ∨ complaint = .unknownExpression token.kind ∨
      token.kind = .float ∧ readFloat? (token.value.getD token.lexeme).toList = none := by
  unfold literal at refused
  dsimp only at refused
  split at refused
  · split at refused <;> cases refused
    exact .inl rfl
  · next isFloat =>
      split at refused
      · cases refused
      · next unread => exact .inr (.inr ⟨isFloat, unread⟩)
  · cases refused
  · cases refused
  · cases refused
  · cases refused
    exact .inr (.inl rfl)

/-- A token of a text that stands for no literal is an integer out of range, or it is of another
kind. -/
theorem complaint_of_scanned {source : String} {token : Token} {complaint : Complaint}
    (member : token ∈ (scan source).tokens) (refused : literal token = .error complaint) :
    complaint = .integerTooLarge token.lexeme ∨ complaint = .unknownExpression token.kind := by
  rcases literal_eq_error refused with tooLarge | other | ⟨isFloat, unread⟩
  · exact .inl tooLarge
  · exact .inr other
  · rw [scan_eq, List.mem_append, List.mem_singleton] at member
    rcases member with inside | rfl
    · obtain ⟨lexeme, rest, formed⟩ :=
        (Cursor.start source.toList).reads_tokens.lexeme_of_mem inside
      obtain ⟨n, one, valueEq⟩ := formed.exists_numeral isFloat
      obtain ⟨x, read⟩ := n.isSome_readFloat?_ungrouped one
      rw [valueEq, Option.getD_some, String.toList_ofList, read] at unread
      cases unread
    · cases isFloat

/-- No complaint about a text begins as one about a malformed float does. -/
theorem Raised.exists_head?_text {source : String} {diagnostic : Diagnostic}
    (raised : Raised source diagnostic) :
    ∃ c, c ≠ 'F' ∧ diagnostic.complaint.text.toList.head? = some c := by
  cases raised with
  | number =>
      exact ⟨'i', by decide, show "invalid syntax. Perhaps you forgot a comma?".toList.head? =
        some 'i' from rfl⟩
  | string =>
      exact ⟨'u', by decide, show "unterminated string literal".toList.head? = some 'u' from rfl⟩
  | refusal refusal =>
      cases refusal with
      | noLiteral member refused =>
          rcases complaint_of_scanned member refused with rfl | rfl
          · exact ⟨'I', by decide, head?_toList_append (head?_toList_append rfl _) _⟩
          · exact ⟨'U', by decide, head?_toList_append rfl _⟩
      | nothing => exact ⟨'U', by decide, head?_toList_append rfl _⟩
      | deepGroup =>
          exact ⟨'t', by decide, show "too many nested parentheses".toList.head? =
            some 't' from rfl⟩
      | deepBranch =>
          exact ⟨'t', by decide, show "too many nested conditional expressions".toList.head? =
            some 't' from rfl⟩
      | unclosed | unclosedAtEnd =>
          exact ⟨'T', by decide, head?_toList_append
            (head?_toList_append (head?_toList_append rfl _) _) _⟩
  | fault isFault =>
      obtain ⟨complaint, span⟩ := diagnostic
      have ofOperator : ∀ (fault : Fault) (name use : String),
          ∃ c, c ≠ 'F' ∧ (fault.message name use).toList.head? = some c := by
        intro fault name use
        obtain ⟨c, member, begins⟩ := fault.exists_head?_message name use
        refine ⟨c, ?_, begins⟩
        rintro rfl
        exact absurd member (by decide)
      cases complaint with
      | binaryFault fault op left right => exact ofOperator fault _ _
      | unaryFault fault op operand => exact ofOperator fault _ _
      | identityOfLiteral negated left =>
          cases negated <;> exact ⟨'"', by decide,
            head?_toList_append (head?_toList_append rfl _) _⟩
      | conditionNotBool kind => exact ⟨'c', by decide, head?_toList_append rfl _⟩
      | _ => cases isFault

/-- No complaint that is raised has the text of a malformed float. -/
theorem Raised.text_ne {source : String} {diagnostic : Diagnostic}
    (raised : Raised source diagnostic) (lexeme : String) :
    diagnostic.complaint.text ≠ "Float literal " ++ lexeme ++ " is malformed" := by
  intro same
  obtain ⟨c, other, begins⟩ := raised.exists_head?_text
  have malformed : ("Float literal " ++ lexeme ++ " is malformed").toList.head? = some 'F' :=
    head?_toList_append (head?_toList_append rfl _) _
  rw [same, malformed, Option.some.injEq] at begins
  exact other begins.symm

/-! ### Numbers as programs -/

theorem exists_int64?_of_lt {m : Nat} (small : m < 2 ^ 63) : ∃ z, int64? m = some z := by
  apply Option.isSome_iff_exists.mp
  exact Integer.isSome_int64? (by omega) (by omega)

theorem int64?_eq_none_of_le {m : Nat} (large : 2 ^ 63 ≤ m) : int64? m = none := by
  cases ranged : int64? m with
  | none => rfl
  | some z =>
      have bound := z.toInt_lt
      rw [Integer.toInt_of_int64? ranged] at bound
      omega

/-- Behind a minus sign a number of a magnitude up to `2 ^ 63` stands for its opposite. -/
theorem Numeral.exists_evaluate_negated (n : Numeral) (noPoints : n.points = 0) (spaces : Nat)
    (small : n.magnitude ≤ 2 ^ 63) :
    ∃ z : Int64, z.toInt = -n.magnitude ∧ evaluate (n.negated spaces) = .ok [.integer z] := by
  rcases Nat.lt_or_eq_of_le small with less | least
  · obtain ⟨z, inRange⟩ := exists_int64?_of_lt less
    obtain ⟨w, opposite⟩ := Option.isSome_iff_exists.mp
      (Integer.isSome_int64? (show -9223372036854775808 ≤ -(n.magnitude : Int) by omega) (by omega))
    exact ⟨w, Integer.toInt_of_int64? opposite, n.evaluate_negated noPoints spaces inRange opposite⟩
  · refine ⟨Int64.minValue, ?_, n.evaluate_negated_least noPoints spaces least⟩
    rw [least]
    rfl

/-- The text of an integer is a number, with a minus sign before it if the integer is negative. -/
theorem evaluate_display_integer (z : Int64) :
    evaluate (Value.integer z).display = .ok [.integer z] := by
  have least := z.le_toInt
  have greatest := z.toInt_lt
  obtain ⟨n, textEq, noPoints, magnitudeEq⟩ := Numeral.exists_text_eq z.toInt.natAbs
  by_cases nonneg : 0 ≤ z.toInt
  · have displayed : (Value.integer z).display = n.text := by
      have magnitude : z.toInt.toNat = z.toInt.natAbs := by omega
      rw [Value.display, Int.toString_eq_repr, Int.repr_eq_if, if_pos nonneg, textEq, magnitude]
      rfl
    have inRange : int64? n.magnitude = some z := by
      rw [magnitudeEq, Int.natAbs_of_nonneg nonneg, int64?_toInt]
    rw [displayed, n.evaluate_text noPoints inRange]
  · have displayed : (Value.integer z).display = n.negated 0 := by
      have magnitude : (-z.toInt).toNat = z.toInt.natAbs := by omega
      rw [Value.display, Int.toString_eq_repr, Int.repr_eq_if, if_neg nonneg, Numeral.negated,
        textEq, magnitude]
      simp
    obtain ⟨w, opposite, evaluated⟩ := n.exists_evaluate_negated noPoints 0 (by omega)
    have same : w = z := Int64.toInt_inj.mp (by omega)
    rw [displayed, evaluated, same]

theorem Value.kind_narrow_float (x : Float) :
    (Value.float x).narrow.kind = .integer ∨ (Value.float x).narrow.kind = .float := by
  cases whole : Floats.integer? x with
  | some n => exact .inl (by simp only [narrow, whole, kind])
  | none => exact .inr (by simp only [narrow, whole, kind])

/-- A refused text is refused for a complaint about its words or its grammar. -/
theorem complaint_of_evaluate {source : String} {diagnostic : Diagnostic}
    (refused : evaluate source = .error (.refused diagnostic)) :
    diagnostic ∈ (scan source).complaint? ∨
      diagnostic ∈ (parse (scan source).tokens).complaint? := by
  rw [evaluate_eq_outcome, Parsed.outcome] at refused
  split at refused
  · next found =>
      cases refused
      rw [Option.or_eq_some_iff] at found
      exact found.imp id And.right
  · cases refused

/-- A text is refused with a message of a class, which points at a span. -/
def RefusedWith (source : String) (severity : Severity) (message : String) (span : Span) : Prop :=
  ∃ diagnostic, evaluate source = .error (.refused diagnostic) ∧
    diagnostic.complaint.severity = severity ∧
    diagnostic.complaint.text = message ∧ diagnostic.span = span

/-- A number without a point stands for its magnitude if that is less than `2 ^ 63`, and is refused
otherwise; behind a minus sign it stands for the opposite of its magnitude up to `2 ^ 63`. So the
text of every integer is read back. A number with one point is always read, and there is no
complaint about malformed floats in any text. A number with more points is refused as a whole. -/
theorem evaluate_numerals :
    (∀ n : Numeral, n.points = 0 →
      (n.magnitude < 2 ^ 63 → ∃ z : Int64, z.toInt = n.magnitude ∧
        evaluate n.text = .ok [.integer z]) ∧
      (2 ^ 63 ≤ n.magnitude →
        RefusedWith n.text .parseException ("Integer literal " ++ n.text ++ " is too large")
          ⟨0, n.text.length, 1, 1⟩) ∧
      ∀ spaces : Nat,
        (n.magnitude ≤ 2 ^ 63 →
          ∃ z : Int64, z.toInt = -n.magnitude ∧ evaluate (n.negated spaces) = .ok [.integer z]) ∧
        (2 ^ 63 < n.magnitude →
          RefusedWith (n.negated spaces) .parseException
            ("Integer literal " ++ n.text ++ " is too large")
            ⟨spaces + 1, spaces + 1 + n.text.length, 1, spaces + 2⟩)) ∧
    (∀ z : Int64, evaluate (Value.integer z).display = .ok [.integer z]) ∧
    (∀ n : Numeral, n.points = 1 →
      ∃ v, evaluate n.text = .ok [v] ∧ (v.kind = .integer ∨ v.kind = .float)) ∧
    (∀ source diagnostic,
      evaluate source = .error (.refused diagnostic) ∨ diagnostic ∈ (scan source).complaint? ∨
          diagnostic ∈ (parse (scan source).tokens).complaint? →
        ∀ lexeme, diagnostic.complaint.text ≠ "Float literal " ++ lexeme ++ " is malformed") ∧
    ∀ n : Numeral, 2 ≤ n.points →
      RefusedWith n.text .syntaxError "invalid syntax. Perhaps you forgot a comma?"
        ⟨0, n.text.length, 1, 1⟩ := by
  refine ⟨fun n noPoints => ⟨?_, ?_, fun spaces => ⟨?_, ?_⟩⟩, ?_, ?_, ?_, ?_⟩
  · intro small
    obtain ⟨z, inRange⟩ := exists_int64?_of_lt small
    exact ⟨z, Integer.toInt_of_int64? inRange, n.evaluate_text noPoints inRange⟩
  · intro large
    exact ⟨_, n.evaluate_text_tooLarge noPoints (int64?_eq_none_of_le large), rfl, rfl, rfl⟩
  · exact n.exists_evaluate_negated noPoints spaces
  · intro large
    have outside := int64?_eq_none_of_le (Nat.le_of_lt large)
    exact ⟨_, n.evaluate_negated_tooLarge noPoints spaces large outside, rfl, rfl, rfl⟩
  · exact evaluate_display_integer
  · intro n one
    obtain ⟨x, evaluated⟩ := n.evaluate_float one
    exact ⟨_, evaluated, Value.kind_narrow_float x⟩
  · intro source diagnostic complained lexeme
    exact (raised_of_complaint (complained.elim complaint_of_evaluate id)).text_ne lexeme
  · intro n several
    exact ⟨_, n.evaluate_malformed several, rfl, rfl, rfl⟩

/-- The magnitude of the least integer, with a zero before it and underscores in it. -/
def groupedLeast : Numeral where
  first := '0'
  more := "_9_223372036854_775808_".toList
  digit := rfl
  goesOn c member := by
    have continued : "_9_223372036854_775808_".toList.all continuesNumber = true := by
      decide +kernel
    exact cases_of_continuesNumber (List.all_eq_true.mp continued c member)

/-- The magnitude of the least integer, grouped by underscores, is too large alone and in range
behind a minus sign. -/
theorem evaluate_numerals_groupedLeast :
    groupedLeast.points = 0 ∧ groupedLeast.magnitude = 2 ^ 63 ∧
      RefusedWith groupedLeast.text .parseException
        ("Integer literal " ++ groupedLeast.text ++ " is too large")
        ⟨0, groupedLeast.text.length, 1, 1⟩ ∧
      ∃ z : Int64, z.toInt = -groupedLeast.magnitude ∧
        evaluate (groupedLeast.negated 2) = .ok [.integer z] := by
  have noPoints : groupedLeast.points = 0 := by decide +kernel
  have magnitude : groupedLeast.magnitude = 2 ^ 63 := by decide +kernel
  obtain ⟨_, refused, negated⟩ := evaluate_numerals.1 groupedLeast noPoints
  exact ⟨noPoints, magnitude, refused (Nat.le_of_eq magnitude.symm),
    (negated 2).1 (Nat.le_of_eq magnitude)⟩

end Reckon
