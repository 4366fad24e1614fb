/-
Module: Reckon.Proofs.DiagnosticSpans
Purpose: Every diagnostic points into the text. The tokens of a text stand in a row, each behind the
  one before it. A tree that derives from a row lies where the row lies, its parts one behind
  another, so that the spans which are joined from those of its parts never run backwards. Folding
  keeps a tree where it lies. So the first error node of a statement is a place in the text, and
  what is refused before there is a tree points at a token.
Main exports: Span.Between, Expr.Between, Expr.Between.fold, Row, Grammar.Derives.between,
  Cursor.Reads.row, compile_error_span
-/
import Reckon.Proofs.LinesAndColumns
import Reckon.Proofs.Refusal

namespace Reckon

/-! ### Spans between two offsets -/

/-- A span that runs forwards from one offset of a text to another, and has a line and a column
there. -/
structure Span.Between (low high : Int) (span : Span) : Prop where
  lowLe : low ≤ span.start
  startLe : span.start ≤ span.stop
  stopLe : span.stop ≤ high
  onLine : 1 ≤ span.line
  inColumn : 1 ≤ span.column

namespace Span.Between

variable {low mid high : Int} {span first last : Span}

theorem le (between : span.Between low high) : low ≤ high :=
  Int.le_trans between.lowLe (Int.le_trans between.startLe between.stopLe)

/-- A span stays between offsets that are further apart. -/
theorem widen {lower higher : Int} (between : span.Between low high) (below : lower ≤ low)
    (above : high ≤ higher) : span.Between lower higher where
  lowLe := Int.le_trans below between.lowLe
  startLe := between.startLe
  stopLe := Int.le_trans between.stopLe above
  onLine := between.onLine
  inColumn := between.inColumn

/-- The span over two that follow each other is between the outer offsets. -/
theorem join (before : first.Between low mid) (behind : last.Between mid high) :
    (first.join last).Between low high where
  lowLe := before.lowLe
  startLe := Int.le_trans (Int.le_trans before.startLe before.stopLe)
    (Int.le_trans behind.lowLe behind.startLe)
  stopLe := behind.stopLe
  onLine := before.onLine
  inColumn := before.inColumn

/-- A span that is extended back to the one before it is between the outer offsets. -/
theorem extendBack (before : first.Between low mid) (behind : last.Between mid high) :
    (first.extendBack last).Between low high where
  lowLe := before.lowLe
  startLe := Int.le_trans (Int.le_trans before.startLe before.stopLe)
    (Int.le_trans behind.lowLe behind.startLe)
  stopLe := behind.stopLe
  onLine := behind.onLine
  inColumn := behind.inColumn

/-- The point at the end of a span lies where the span does. -/
theorem point_stop (between : span.Between low high) :
    (Span.point span.stop span.line span.column).Between low high where
  lowLe := Int.le_trans between.lowLe between.startLe
  startLe := Int.le_refl _
  stopLe := between.stopLe
  onLine := between.onLine
  inColumn := between.inColumn

end Span.Between

/-! ### Trees between two offsets -/

namespace Expr

/-- A tree lies between two offsets: each of its parts ends before the next begins, and so do the
places that its error nodes point at. -/
inductive Between : (low high : Int) → Expr → Prop where
  | value {low high : Int} {span : Span} {v : Value} (within : span.Between low high) :
      Between low high (.value span v)
  | unary {low mid high : Int} {op : UnaryOp} {opSpan : Span} {operand : Expr}
      (sign : opSpan.Between low mid) (inOperand : Between mid high operand) :
      Between low high (.unary op opSpan operand)
  | binary {low mid high : Int} {family : Family} {op : BinaryOp} {left right : Expr}
      (inLeft : Between low mid left) (inRight : Between mid high right) :
      Between low high (.binary family op left right)
  | coalesce {low mid high : Int} {left right : Expr}
      (inLeft : Between low mid left) (inRight : Between mid high right) :
      Between low high (.coalesce left right)
  | conditional {low mid mid' high : Int} {cond ifTrue ifFalse : Expr}
      (inCond : Between low mid cond)
      (inTrue : Between mid mid' ifTrue) (inFalse : Between mid' high ifFalse) :
      Between low high (.conditional cond ifTrue ifFalse)
  | guarded {low mid high : Int} {cond ifTrue : Expr} (inCond : Between low mid cond)
      (inTrue : Between mid high ifTrue) : Between low high (.guarded cond ifTrue)
  | error {low high : Int} {diagnostic : Diagnostic} (within : diagnostic.span.Between low high) :
      Between low high (.error diagnostic)

variable {low mid mid' high : Int} {e left right cond ifTrue ifFalse operand : Expr}

/-- The span of a tree lies where the tree does. -/
theorem Between.span (between : e.Between low high) : e.span.Between low high := by
  induction between with
  | value within => exact within
  | unary sign _ operandSpan => exact sign.extendBack operandSpan
  | binary _ _ leftSpan rightSpan => exact leftSpan.join rightSpan
  | coalesce _ _ leftSpan rightSpan => exact leftSpan.join rightSpan
  | conditional _ _ _ condSpan trueSpan falseSpan =>
      exact condSpan.join (falseSpan.widen trueSpan.le (Int.le_refl _))
  | guarded _ _ condSpan trueSpan => exact condSpan.join trueSpan
  | error within => exact within

theorem Between.le (between : e.Between low high) : low ≤ high :=
  between.span.le

/-- A tree stays between offsets that are further apart. -/
theorem Between.widen {lower higher : Int} (between : e.Between low high) (below : lower ≤ low)
    (above : high ≤ higher) : e.Between lower higher := by
  induction between generalizing lower higher with
  | value within => exact .value (within.widen below above)
  | unary sign _ operandWiden =>
      exact .unary (sign.widen below (Int.le_refl _)) (operandWiden (Int.le_refl _) above)
  | binary _ _ leftWiden rightWiden =>
      exact .binary (leftWiden below (Int.le_refl _)) (rightWiden (Int.le_refl _) above)
  | coalesce _ _ leftWiden rightWiden =>
      exact .coalesce (leftWiden below (Int.le_refl _)) (rightWiden (Int.le_refl _) above)
  | conditional _ inTrue _ condWiden _ falseWiden =>
      exact .conditional (condWiden below (Int.le_refl _)) inTrue (falseWiden (Int.le_refl _) above)
  | guarded _ _ condWiden trueWiden =>
      exact .guarded (condWiden below (Int.le_refl _)) (trueWiden (Int.le_refl _) above)
  | error within => exact .error (within.widen below above)

/-- The first error node of a tree points to where the tree lies. -/
theorem Between.firstError? (between : e.Between low high) :
    ∀ diagnostic ∈ e.firstError?, diagnostic.span.Between low high := by
  induction between with
  | value _ => simp [Expr.firstError?]
  | unary sign _ inOperand =>
      intro diagnostic found
      exact (inOperand diagnostic found).widen sign.le (Int.le_refl _)
  | binary left right inLeft inRight | coalesce left right inLeft inRight
  | guarded left right inLeft inRight =>
      intro diagnostic found
      rcases Option.or_eq_some_iff.mp found with found | ⟨_, found⟩
      · exact (inLeft diagnostic found).widen (Int.le_refl _) right.le
      · exact (inRight diagnostic found).widen left.le (Int.le_refl _)
  | conditional cond ifTrue ifFalse inCond inTrue inFalse =>
      intro diagnostic found
      rcases Option.or_eq_some_iff.mp found with found | ⟨_, found⟩
      · rcases Option.or_eq_some_iff.mp found with found | ⟨_, found⟩
        · exact (inCond diagnostic found).widen (Int.le_refl _) (Int.le_trans ifTrue.le ifFalse.le)
        · exact (inTrue diagnostic found).widen cond.le ifFalse.le
      · exact (inFalse diagnostic found).widen (Int.le_trans cond.le ifTrue.le) (Int.le_refl _)
  | error within =>
      rintro diagnostic ⟨⟩
      exact within

/-! ### Folding -/

/-- Folding a sign moves no span out of its place. -/
theorem between_foldUnary (op : UnaryOp) {opSpan : Span} (sign : opSpan.Between low mid)
    (inOperand : operand.Between mid high) : (foldUnary op opSpan operand).Between low high := by
  unfold foldUnary
  split
  · have covered := sign.extendBack inOperand.span
    split
    · exact .value covered
    · exact .error covered
  · exact .unary sign inOperand

/-- The result of two literals stands where the two stood. -/
theorem between_foldLiterals (family : Family) (op : BinaryOp) {span : Span} (l r : Value)
    (within : span.Between low high) : (foldLiterals family op span l r).Between low high := by
  unfold foldLiterals
  split
  · exact .error within
  · split
    · exact .value within
    · exact .error within

/-- Folding an operation moves no span out of its place. -/
theorem between_foldBinary (family : Family) (op : BinaryOp) (inLeft : left.Between low mid)
    (inRight : right.Between mid high) : (foldBinary family op left right).Between low high := by
  unfold foldBinary
  split
  · exact between_foldLiterals family op _ _ (inLeft.span.join inRight.span)
  · exact .binary inLeft inRight

/-- What is left of a coalescing node lies where the node did. -/
theorem between_foldCoalesce (inLeft : left.Between low mid) (inRight : right.Between mid high) :
    (foldCoalesce left right).Between low high := by
  unfold foldCoalesce
  split
  · exact inRight.widen inLeft.le (Int.le_refl _)
  · exact inLeft.widen (Int.le_refl _) inRight.le
  · exact .coalesce inLeft inRight

/-- A complaint about a condition points to where the condition lies. -/
theorem between_of_verdict {diagnostic : Diagnostic} (inCond : cond.Between low high)
    (invalid : cond.verdict = .invalid diagnostic) : diagnostic.span.Between low high := by
  unfold verdict at invalid
  split at invalid <;> cases invalid
  exact inCond.span

/-- What is left of a conditional lies where the conditional did. -/
theorem between_foldConditional (inCond : cond.Between low mid) (inTrue : ifTrue.Between mid mid')
    (inFalse : ifFalse.Between mid' high) :
    (foldConditional cond ifTrue ifFalse).Between low high := by
  unfold foldConditional
  split
  · exact inTrue.widen inCond.le inFalse.le
  · exact inFalse.widen (Int.le_trans inCond.le inTrue.le) (Int.le_refl _)
  · next invalid =>
      exact .error ((between_of_verdict inCond invalid).widen (Int.le_refl _)
        (Int.le_trans inTrue.le inFalse.le))
  · exact .conditional inCond inTrue inFalse

/-- What is left of a conditional without an alternative lies where it did. -/
theorem between_foldGuarded (inCond : cond.Between low mid) (inTrue : ifTrue.Between mid high) :
    (foldGuarded cond ifTrue).Between low high := by
  unfold foldGuarded
  split
  · exact inTrue.widen inCond.le (Int.le_refl _)
  · exact .value (inTrue.span.widen inCond.le (Int.le_refl _))
  · next invalid =>
      exact .error ((between_of_verdict inCond invalid).widen (Int.le_refl _) inTrue.le)
  · exact .guarded inCond inTrue

/-- A folded tree lies where the tree did. -/
theorem Between.fold (between : e.Between low high) : e.fold.Between low high := by
  induction between with
  | value within => exact .value within
  | unary sign _ inOperand => exact between_foldUnary _ sign inOperand
  | binary _ _ inLeft inRight => exact between_foldBinary _ _ inLeft inRight
  | coalesce _ _ inLeft inRight => exact between_foldCoalesce inLeft inRight
  | conditional _ _ _ inCond inTrue inFalse => exact between_foldConditional inCond inTrue inFalse
  | guarded _ _ inCond inTrue => exact between_foldGuarded inCond inTrue
  | error within => exact .error within

end Expr

/-! ### Rows of tokens -/

/-- Tokens between two offsets, each of them behind the one before it. -/
inductive Row : (low high : Int) → List Token → Prop where
  | nil {low high : Int} (ordered : low ≤ high) : Row low high []
  | cons {low mid high : Int} {token : Token} {tokens : List Token}
      (first : token.span.Between low mid)
      (others : Row mid high tokens) : Row low high (token :: tokens)

namespace Row

variable {low mid high : Int} {token : Token} {tokens taken : List Token}

theorem le (row : Row low high tokens) : low ≤ high := by
  induction row with
  | nil ordered => exact ordered
  | cons first _ othersLe => exact Int.le_trans first.le othersLe

/-- A row that begins at an offset begins at every lower one. -/
theorem lower {below : Int} (row : Row low high tokens) (lowerLe : below ≤ low) :
    Row below high tokens := by
  cases row with
  | nil ordered => exact .nil (Int.le_trans lowerLe ordered)
  | cons first others => exact .cons (first.widen lowerLe (Int.le_refl _)) others

/-- Every token of a row lies between the ends of the row. -/
theorem between_of_mem (row : Row low high tokens) (member : token ∈ tokens) :
    token.span.Between low high := by
  induction row with
  | nil _ => cases member
  | cons first others inOthers =>
      rcases List.mem_cons.mp member with rfl | later
      · exact first.widen (Int.le_refl _) others.le
      · exact (inOthers later).widen first.le (Int.le_refl _)

/-- A row is cut in two at any place. -/
theorem exists_of_append (row : Row low high (taken ++ tokens)) :
    ∃ mid, Row low mid taken ∧ Row mid high tokens := by
  induction taken generalizing low with
  | nil => exact ⟨low, .nil (Int.le_refl _), row⟩
  | cons token taken inductionHypothesis =>
      cases row with
      | cons first others =>
          obtain ⟨mid, inTaken, inTokens⟩ := inductionHypothesis others
          exact ⟨mid, .cons first inTaken, inTokens⟩

/-- Some tokens of a row are a row. -/
theorem sublist (row : Row low high tokens) (some : taken.Sublist tokens) : Row low high taken := by
  induction some generalizing low with
  | slnil => exact row
  | cons token _ inductionHypothesis =>
      cases row with
      | cons first others => exact (inductionHypothesis others).lower first.le
  | cons_cons token _ inductionHypothesis =>
      cases row with
      | cons first others => exact .cons first (inductionHypothesis others)

end Row

namespace Grammar

/-- A tree that is built from two lies where the two do. -/
theorem between_build {low mid high : Int} {left right : Expr} (joint : Joint)
    (inLeft : left.Between low mid) (inRight : right.Between mid high) :
    (joint.build left right).Between low high := by
  cases joint with
  | binary family op => exact .binary inLeft inRight
  | coalesce => exact .coalesce inLeft inRight

/-- A tree lies where the tokens lie that it derives from. -/
theorem Derives.between {rank : Nat} {e : Expr} {tokens : List Token} {low high : Int}
    (derives : Derives rank e tokens) (row : Row low high tokens) : e.Between low high := by
  induction derives generalizing low high with
  | literal _ => exact .value (row.between_of_mem List.mem_cons_self)
  | group _ _ _ inside =>
      cases row with
      | cons opening others =>
          obtain ⟨mid, inGroup, closing⟩ := others.exists_of_append
          exact (inside inGroup).widen opening.le closing.le
  | least _ _ =>
      cases row with
      | cons sign others =>
          exact .value (sign.extendBack (others.between_of_mem List.mem_cons_self))
  | unary _ _ operand =>
      cases row with
      | cons sign others => exact .unary sign (operand others)
  | @joined level joint _ _ _ _ _ _ _ _ left right =>
      obtain ⟨mid, inLeft, others⟩ := row.exists_of_append
      obtain ⟨mid', inOperator, inRight⟩ := others.exists_of_append
      exact between_build joint (left inLeft) ((right inRight).widen inOperator.le (Int.le_refl _))
  | guarded _ _ _ cond ifTrue =>
      obtain ⟨mid, inCond, others⟩ := row.exists_of_append
      cases others with
      | cons question inTrue =>
          exact .guarded (cond inCond) ((ifTrue inTrue).widen question.le (Int.le_refl _))
  | conditional _ _ _ _ _ cond ifTrue ifFalse =>
      obtain ⟨mid, inCond, others⟩ := row.exists_of_append
      cases others with
      | cons question branches =>
          obtain ⟨mid', inTrue, others⟩ := branches.exists_of_append
          cases others with
          | cons colon inFalse =>
              exact .conditional (cond inCond) ((ifTrue inTrue).widen question.le (Int.le_refl _))
                ((ifFalse inFalse).widen colon.le (Int.le_refl _))
  | looser _ inside => exact inside row

end Grammar

/-! ### The row of a text -/

namespace Cursor

variable {text passed lexeme rest : List Char} {c : Cursor}

/-- The offsets before and behind a lexeme, and the end of the text, one behind another. -/
theorem Tracks.offsets (tracks : c.Tracks text) (within : c.offset ≤ text.length)
    (parts : c.rest = passed ++ (lexeme ++ rest)) :
    c.offset ≤ (c.skip passed.length).offset ∧
      ((c.skip passed.length).skip lexeme.length).offset =
        (c.skip passed.length).offset + lexeme.length ∧
      (c.skip passed.length).offset + lexeme.length ≤ text.length := by
  have restLength : c.rest.length = text.length - c.offset := by rw [tracks.rest, List.length_drop]
  have partsLength := congrArg List.length parts
  simp only [List.length_append] at partsLength
  have atLexeme : (c.skip passed.length).offset = c.offset + passed.length := offset_skip (by omega)
  have behindLexeme : ((c.skip passed.length).skip lexeme.length).offset =
      (c.skip passed.length).offset + lexeme.length :=
    offset_skip (by rw [rest_skip_passed parts, List.length_append]; omega)
  exact ⟨by omega, behindLexeme, by omega⟩

/-- The span of a lexeme reaches from the cursor over the lexeme. -/
theorem between_spanOf {offset : Nat} (stands : Stands text offset c.line c.column) (length : Nat) :
    (c.spanOf length).Between c.offset (c.offset + length) := by
  obtain ⟨onLine, inColumn⟩ := stands.one_le
  exact ⟨Int.le_refl _, by simp only [spanOf]; omega, Int.le_refl _, onLine, inColumn⟩

/-- The span of its token reaches no further, a point included. -/
theorem between_tokenAt {offset : Nat} (stands : Stands text offset c.line c.column)
    (kind : TokenKind) (value : Option String) (lexeme : List Char) :
    (c.tokenAt kind value lexeme).span.Between c.offset (c.offset + lexeme.length) := by
  have whole := between_spanOf stands lexeme.length
  unfold tokenAt
  dsimp only
  split
  · exact ⟨Int.le_refl _, Int.le_refl _, whole.le, whole.onLine, whole.inColumn⟩
  · exact whole

/-- The tokens of a reading stand in a row from its cursor to the end of the text, and the complaint
that ends it points there. -/
theorem Reads.row {scanned : Scanned} (reads : c.Reads scanned) (tracks : c.Tracks text)
    (within : c.offset ≤ text.length) :
    Row c.offset text.length scanned.tokens ∧
      ∀ diagnostic ∈ scanned.complaint?, diagnostic.span.Between c.offset text.length := by
  induction reads with
  | nothing _ => exact ⟨.nil (Int.ofNat_le.mpr within), by simp⟩
  | @malformed c passed lexeme rest complaint parts _ broken =>
      obtain ⟨low, _, high⟩ := tracks.offsets within parts
      obtain ⟨head, tail, rfl, begins, _⟩ := broken.lexHead_eq
      refine ⟨.nil (Int.ofNat_le.mpr within), ?_⟩
      rintro diagnostic ⟨⟩
      exact (between_spanOf (tracks.stands_of_head parts begins) _).widen (by omega) (by omega)
  | @token c passed lexeme rest kind value others parts _ formed _ inductionHypothesis =>
      obtain ⟨low, behind, high⟩ := tracks.offsets within parts
      obtain ⟨row, complaint⟩ := inductionHypothesis ((tracks.skip _).skip _) (by omega)
      rw [behind] at row complaint
      obtain ⟨head, tail, rfl, begins, _⟩ := formed.lexHead_eq
      have first := between_tokenAt (tracks.stands_of_head parts begins) kind value (head :: tail)
      refine ⟨.cons (first.widen (by omega) (by simp)) row, fun diagnostic found => ?_⟩
      exact (complaint diagnostic found).widen (by omega) (Int.le_refl _)

end Cursor

/-! ### Programs that are not compiled -/

open Grammar

/-- Compiling fails for a complaint about the words of a program or about its grammar, and for
nothing else. -/
theorem compile_eq_error {source : String} {failure : Failure}
    (failed : compile source = .error failure) :
    ∃ diagnostic, failure = .refused diagnostic ∧
      (diagnostic ∈ (scan source).complaint? ∨
        diagnostic ∈ (parse (scan source).tokens).complaint?) := by
  unfold compile at failed
  dsimp only at failed
  split at failed
  · next diagnostic lexical =>
      cases failed
      exact ⟨diagnostic, rfl, .inl lexical⟩
  · split at failed
    · next diagnostic grammatical =>
        cases failed
        exact ⟨diagnostic, rfl, .inr grammatical⟩
    · have literals : ∀ e ∈ (parse (scan source).tokens).statements, e.IsNarrowLiteral :=
        fun e member => isNarrowLiteral_of_mem_statements member
      obtain ⟨code, _, lowered, _⟩ := Stmt.lower_literals literals
      rw [Parsed.block, lowered] at failed
      cases failed

/-- A complaint about the grammar of a program points into the text, or to its end. -/
theorem Row.span_of_complaint? {words : List Token} {high : Int} {diagnostic : Diagnostic}
    (row : Row 0 high words)
    (complained : diagnostic ∈ (parse (words ++ [.endOfInput])).complaint?) :
    diagnostic.span = .endOfInput ∨ diagnostic.span.Between 0 high := by
  rcases complaint?_statements complained with refusal | ⟨e, taken, isInfix, derives, found⟩
  · have points := refusal.pointsAt
    -- The token that ends the program points to the end itself.
    have placed : ∀ token ∈ words ++ [.endOfInput],
        token.span = .endOfInput ∨ token.span.Between 0 high := by
      intro token member
      rcases List.mem_append.mp member with earlier | last
      · exact .inr (row.between_of_mem earlier)
      · rw [List.mem_singleton.mp last]
        exact .inl rfl
    generalize diagnostic.span = span at points
    cases points with
    | endOfInput => exact .inl rfl
    | token member => exact placed _ member
    | behind member =>
        rcases placed _ member with atEnd | between
        · rw [atEnd]
          exact .inl rfl
        · exact .inr between.point_stop
  · -- No tree derives from the token that ends the program, so this one derives from words only.
    have isWord : ∀ token ∈ taken, (token.kind != .endOfInput) = true := by
      simpa using derives.ne_endOfInput
    have fromWords := (isInfix.filter fun token => token.kind != .endOfInput).sublist
    rw [List.filter_eq_self.mpr isWord, List.filter_append] at fromWords
    have inWords : taken.Sublist words := by
      apply fromWords.trans
      simp [Token.endOfInput]
    exact .inr ((derives.between (row.sublist inWords)).fold.firstError? diagnostic found)

/-- If a program is not compiled, it is refused with a diagnostic that points to the end of the
input, or to a stretch of the text which runs forwards, and which has a line and a column. -/
theorem compile_error_span {source : String} {failure : Failure}
    (failed : compile source = .error failure) :
    ∃ diagnostic, failure = .refused diagnostic ∧
      (diagnostic.span = .endOfInput ∨ diagnostic.span.Between 0 source.length) := by
  obtain ⟨diagnostic, rfl, complained⟩ := compile_eq_error failed
  obtain ⟨row, lexical⟩ :=
    (Cursor.start source.toList).reads_tokens.row (Cursor.tracks_start source.toList)
    (Nat.zero_le _)
  rw [String.length_toList] at row lexical
  rw [scan_eq] at complained
  refine ⟨diagnostic, rfl, ?_⟩
  rcases complained with inWords | inGrammar
  · exact .inr (lexical diagnostic inWords)
  · exact row.span_of_complaint? inGrammar

/-- The fault stands on the second line, in a branch, behind a sign and within a group. -/
theorem compile_error_span_signedGroup :
    compile "1 < 2 ?\n -('a' - 1) : 3" =
        .error
          (.refused ⟨.binaryFault .undefinedForString .minus .string .integer, ⟨11, 18, 2, 4⟩⟩) ∧
      (⟨11, 18, 2, 4⟩ : Span).Between 0 23 := by
  have failed : compile "1 < 2 ?\n -('a' - 1) : 3" =
      .error (.refused
        ⟨.binaryFault .undefinedForString .minus .string .integer, ⟨11, 18, 2, 4⟩⟩) := by
    decide +kernel
  obtain ⟨diagnostic, failureEq, placed⟩ := compile_error_span failed
  cases failureEq
  exact ⟨failed, placed.resolve_left (by decide)⟩

end Reckon
