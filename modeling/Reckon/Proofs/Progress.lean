/-
Module: Reckon.Proofs.Progress
Purpose: Reading always goes forward. Whatever a reader of the grammar reads, it leaves a shorter
  suffix of its tokens, so none of the loops needs a bound: chains, rows of conditionals and
  programs come to their ends by themselves. A program that is read without a complaint is read up
  to the first end of the input, and not beyond.
Main exports: Progresses, readers, progresses_of_mem_readers, LoopEnds, SeriesEnds,
  Round.seriesEnds, Course, exists_course, Course.length_le, Course.again, parse_progress
-/
import Reckon.Proofs.Sequencing
import Reckon.Proofs.ViablePrefix

namespace Reckon.Grammar

/-! ### Readers take tokens -/

/-- Whatever a reader reads, it leaves a strictly shorter suffix of its tokens. -/
def Progresses (read : Parse) : Prop :=
  ∀ tokens e rest, read tokens = .ok (e, rest) → rest <:+ tokens ∧ rest.length < tokens.length

/-- The readers of the grammar, from statements down to literals, when groups and branches may nest
`room` deep. -/
def readers (room : Nat) : List Parse :=
  statement :: expression room :: (Level.table.map fun level => reader room level.rank) ++
    [signed (nestedReader room), primary (nestedReader room), leaf]

theorem progress_of_taken {taken : List Token} (nonempty : taken ≠ []) (rest : List Token) :
    rest <:+ taken ++ rest ∧ rest.length < (taken ++ rest).length := by
  have someTaken := List.length_pos_iff.mpr nonempty
  refine ⟨List.suffix_append taken rest, ?_⟩
  rw [List.length_append]
  omega

/-- A reader that reads locally takes tokens. -/
theorem ReadsLocally.progresses {rank : Nat} {read : Parse} (locally : ReadsLocally rank read) :
    Progresses read := by
  intro tokens e rest found
  obtain ⟨taken, nonempty, rfl, _⟩ := locally tokens e rest found
  exact progress_of_taken nonempty rest

section Room

variable (room : Nat)

/-- What reads groups and branches is prompt. -/
theorem prompt_nestedReader : ∀ read ∈ nestedReader room, Prompt 0 read :=
  forall_nestedReader (fun room => (prompt_readers room).1) room

theorem readsLocally_nestedPrimary : ReadsLocally primaryRank (primary (nestedReader room)) :=
  readsLocally_primary fun read member => (prompt_nestedReader room read member).locally

end Room

/-! ### Statements -/

/-- A statement is read from its own tokens, of which none is the end of the input; of those behind
them, only the first has a say. -/
theorem statement_locally {tokens rest : List Token} {e : Expr}
    (read : statement tokens = .ok (e, rest)) :
    ∃ taken, taken ≠ [] ∧ tokens = taken ++ rest ∧ (∀ token ∈ taken, token.kind ≠ .endOfInput) ∧
      ∀ other, other.head? = rest.head? → statement (taken ++ other) = .ok (e, other) := by
  obtain ⟨⟨tree, behind⟩, expressionRead, _⟩ := bind_eq_ok.mp read
  rw [statement_eq_ok expressionRead] at read
  obtain ⟨taken, nonempty, rfl, again⟩ :=
    (prompt_readers nestingLimit).1.locally _ tree behind expressionRead
  have goesOn : ∀ token ∈ taken, token.kind ≠ .endOfInput := by
    obtain ⟨derived, parts, derives⟩ :=
      (readsWhole_expression nestingLimit).sound _ tree behind expressionRead
    rw [List.append_cancel_right parts]
    exact derives.ne_endOfInput
  cases parted : take? .semicolon behind with
  | none =>
      rw [parted] at read
      cases read
      refine ⟨taken, nonempty, rfl, goesOn, ?_⟩
      intro other same
      rw [statement_eq_ok (again other (.inl same)), take?_eq_none_of_head?_eq same parted]
      rfl
  | some parting =>
      obtain ⟨semicolon, after⟩ := parting
      obtain ⟨rfl, parts⟩ := take?_eq_some parted
      rw [parted] at read
      cases read
      -- The semicolon belongs to the statement, and what stands behind it is not even looked at.
      refine ⟨taken ++ [semicolon], by simp, by simp, ?_, ?_⟩
      · intro token member
        rcases List.mem_append.mp member with inTaken | isSemicolon
        · exact goesOn token inTaken
        · cases List.mem_singleton.mp isSemicolon
          simp [parts]
      · intro other _
        rw [List.append_assoc, List.singleton_append,
          statement_eq_ok (again (semicolon :: other) (.inl rfl)), take?_of_kind parts]
        rfl

/-- Every reader of the grammar takes tokens. -/
theorem progresses_of_mem_readers {room : Nat} {read : Parse} (member : read ∈ readers room) :
    Progresses read := by
  simp only [readers, List.cons_append, List.mem_cons, List.mem_append, List.mem_map,
    List.not_mem_nil, or_false] at member
  rcases member with rfl | rfl | ⟨level, _, rfl⟩ | rfl | rfl | rfl
  · intro tokens e rest found
    obtain ⟨taken, nonempty, rfl, _⟩ := statement_locally found
    exact progress_of_taken nonempty rest
  · exact (prompt_readers room).1.locally.progresses
  · exact ((prompt_readers room).2 level.rank level.rank_pos
      level.rank_lt_signRank.le).locally.progresses
  · exact (readsLocally_signed (readsLocally_nestedPrimary room)).progresses
  · exact (readsLocally_nestedPrimary room).progresses
  · exact readsLocally_leaf.progresses

/-! ### Loops without a bound -/

/-- What a loop comes to that goes on from a tree, however many rounds there are, until the tokens
do not begin another. A loop that never ended would come to nothing. -/
inductive LoopEnds (round : ReadRound) :
    Expr → List Token → Except Diagnostic (Expr × List Token) → Prop where
  | unbegun {left : Expr} {tokens : List Token} (unbegun : round left tokens = none) :
      LoopEnds round left tokens (.ok (left, tokens))
  | refused {left : Expr} {tokens : List Token} {diagnostic : Diagnostic}
      (refused : round left tokens = some (.error diagnostic)) :
        LoopEnds round left tokens (.error diagnostic)
  | again {left e : Expr} {tokens rest : List Token}
      {result : Except Diagnostic (Expr × List Token)}
      (read : round left tokens = some (.ok (e, rest))) (onward : LoopEnds round e rest result) :
      LoopEnds round left tokens result

/-- What comes of a first tree and such a loop behind it. -/
inductive SeriesEnds (first : Parse) (round : ReadRound) :
    List Token → Except Diagnostic (Expr × List Token) → Prop where
  | refused {tokens : List Token} {diagnostic : Diagnostic}
      (refused : first tokens = .error diagnostic) :
      SeriesEnds first round tokens (.error diagnostic)
  | read {tokens rest : List Token} {left : Expr} {result : Except Diagnostic (Expr × List Token)}
      (read : first tokens = .ok (left, rest)) (onward : LoopEnds round left rest result) :
      SeriesEnds first round tokens result

section Rounds

variable {rank : Nat} {round : ReadRound}

/-- As many rounds as there are tokens are enough, because every round takes some. -/
theorem Round.loopEnds (isRound : Round rank round) {rounds : Nat} (left : Expr)
    {tokens : List Token} (enough : tokens.length ≤ rounds) :
    LoopEnds round left tokens (repeated round rounds left tokens) := by
  induction rounds generalizing left tokens with
  | zero =>
      obtain rfl := List.length_eq_zero_iff.mp (Nat.le_zero.mp enough)
      exact .unbegun (isRound.nothing left)
  | succ rounds inductionHypothesis =>
      cases begun : round left tokens with
      | none =>
          rw [repeated_of_none begun]
          exact .unbegun begun
      | some result =>
          cases result with
          | error diagnostic =>
              rw [repeated_of_error begun (Nat.succ_ne_zero rounds)]
              exact .refused begun
          | ok read =>
              obtain ⟨e, rest⟩ := read
              obtain ⟨taken, nonempty, rfl, _⟩ := isRound.locally left tokens e rest begun
              have shorter := (progress_of_taken nonempty rest).2
              rw [repeated_of_ok begun]
              exact .again begun (inductionHypothesis e (by omega))

/-- A series is read to its end: as every round takes tokens, their number bounds the rounds. -/
theorem Round.seriesEnds (isRound : Round rank round) (first : Parse) (tokens : List Token) :
    SeriesEnds first round tokens (series first round tokens) := by
  unfold series
  cases read : first tokens with
  | error diagnostic => exact .refused read
  | ok result =>
      obtain ⟨left, rest⟩ := result
      exact .read read (isRound.loopEnds left (Nat.le_refl _))

end Rounds

/-- The chains of a level are read to their ends. -/
theorem seriesEnds_chains (room : Nat) (level : Level) (tokens : List Token) :
    SeriesEnds (reader room (level.rank + 1))
      (chainRound level (reader room (level.rank + 1))) tokens
      (reader room level.rank tokens) := by
  have operandPrompt := (prompt_readers room).2 _ (Nat.succ_pos level.rank) level.rank_lt_signRank
  have isRound := round_chainRound (operandPrompt.looser (Nat.le_succ level.rank))
  rw [reader_rank, chain_eq_series]
  exact isRound.seriesEnds _ tokens

/-- The conditionals of an expression are read to their ends. -/
theorem seriesEnds_conditionals (room : Nat) (tokens : List Token) :
    SeriesEnds (reader room Level.coalesce.rank) (conditionalRound (nestedReader room)) tokens
      (expression room tokens) := by
  rw [expression_eq_outermost, outermost_eq_series]
  exact (round_conditionalRound (prompt_nestedReader room)).seriesEnds _ tokens

/-! ### Programs -/

/-- How the reading of a program goes, however many statements there are, and the tokens behind the
last statement that is read. -/
inductive Course : List Token → Parsed → (left : List Token) → Prop where
  | ended {tokens : List Token} (ended : atEnd tokens = true) : Course tokens ⟨[], .complete⟩ tokens
  | refused {tokens : List Token} {diagnostic : Diagnostic} (more : atEnd tokens = false)
      (refused : statement tokens = .error diagnostic) :
        Course tokens ⟨[], .refused diagnostic⟩ tokens
  | faulty {tokens rest : List Token} {e : Expr} {diagnostic : Diagnostic}
      (more : atEnd tokens = false)
      (read : statement tokens = .ok (e, rest)) (faulty : e.fold.firstError? = some diagnostic) :
      Course tokens ⟨[], .faulty e.fold diagnostic⟩ rest
  | kept {tokens rest left : List Token} {e : Expr} {others : Parsed} (more : atEnd tokens = false)
      (read : statement tokens = .ok (e, rest)) (faultless : e.fold.firstError? = none)
      (onward : Course rest others left) :
        Course tokens ⟨e.fold :: others.statements, others.ending⟩ left

theorem atEnd_eq_of_head?_eq {tokens other : List Token} (same : other.head? = tokens.head?) :
    atEnd other = atEnd tokens := by
  cases tokens <;> cases other <;> simp_all [atEnd]

/-- As many rounds as there are tokens are enough, because every statement takes some. -/
theorem exists_course_statements {rounds : Nat} {tokens : List Token}
    (enough : tokens.length ≤ rounds) : ∃ left, Course tokens (statements rounds tokens) left := by
  induction rounds generalizing tokens with
  | zero =>
      obtain rfl := List.length_eq_zero_iff.mp (Nat.le_zero.mp enough)
      exact ⟨[], .ended rfl⟩
  | succ rounds inductionHypothesis =>
      cases more : atEnd tokens with
      | true =>
          rw [statements_of_atEnd more]
          exact ⟨tokens, .ended more⟩
      | false =>
          cases read : statement tokens with
          | error diagnostic =>
              refine ⟨tokens, ?_⟩
              rw [statements_succ, more, if_neg Bool.false_ne_true, read]
              exact .refused more read
          | ok result =>
              obtain ⟨e, rest⟩ := result
              cases fault : e.fold.firstError? with
              | some diagnostic =>
                  refine ⟨rest, ?_⟩
                  rw [statements_succ, more, if_neg Bool.false_ne_true]
                  simp only [read, fault]
                  exact .faulty more read fault
              | none =>
                  obtain ⟨taken, nonempty, rfl, _⟩ := statement_locally read
                  have shorter := (progress_of_taken nonempty rest).2
                  obtain ⟨left, onward⟩ := inductionHypothesis (show rest.length ≤ rounds by omega)
                  rw [statements_cons more read fault]
                  exact ⟨left, .kept more read fault onward⟩

/-- The reading of every program takes a course. -/
theorem exists_course (tokens : List Token) : ∃ left, Course tokens (parse tokens) left :=
  exists_course_statements (Nat.le_refl _)

namespace Course

variable {tokens left : List Token} {p : Parsed}

/-- Every statement that is kept takes a token. -/
theorem length_le (course : Course tokens p left) :
    p.statements.length + left.length ≤ tokens.length := by
  induction course with
  | ended | refused => simp
  | faulty _ read _ =>
      obtain ⟨taken, nonempty, rfl, _⟩ := statement_locally read
      simp
  | kept _ read _ _ inductionHypothesis =>
      obtain ⟨taken, nonempty, rfl, _⟩ := statement_locally read
      have someTaken := List.length_pos_iff.mpr nonempty
      simp only [List.length_cons, List.length_append]
      omega

/-- There is one course only. -/
theorem eq_statements (course : Course tokens p left) {rounds : Nat}
    (enough : tokens.length ≤ rounds) : statements rounds tokens = p := by
  have nonzero {tokens : List Token} {rounds : Nat} (more : atEnd tokens = false)
      (enough : tokens.length ≤ rounds) : ∃ fewer, rounds = fewer + 1 := by
    cases tokens with
    | nil => cases more
    | cons token rest =>
        exact Nat.exists_eq_add_one.mpr (Nat.lt_of_lt_of_le (Nat.succ_pos _) enough)
  induction course generalizing rounds with
  | ended ended => exact statements_of_atEnd ended rounds
  | refused more refused =>
      obtain ⟨rounds, rfl⟩ := nonzero more enough
      rw [statements_succ, more, if_neg Bool.false_ne_true, refused]
  | faulty more read faulty =>
      obtain ⟨rounds, rfl⟩ := nonzero more enough
      rw [statements_succ, more, if_neg Bool.false_ne_true]
      simp only [read, faulty]
  | @kept _ rest _ _ _ more read faultless _ inductionHypothesis =>
      obtain ⟨rounds, rfl⟩ := nonzero more enough
      obtain ⟨taken, nonempty, rfl, _⟩ := statement_locally read
      have shorter := (progress_of_taken nonempty rest).2
      rw [statements_cons more read faultless, inductionHypothesis (by omega)]

/-- A course leads to what the reader gives. -/
theorem eq_parse (course : Course tokens p left) : parse tokens = p :=
  course.eq_statements (Nat.le_refl _)

/-- A program without a complaint takes its tokens up to the end of the input, and would take them
before any other tokens that begin with the same end. -/
theorem again (course : Course tokens p left) (complete : p.complaint? = none) :
    atEnd left = true ∧ ∃ taken, tokens = taken ++ left ∧
      (∀ token ∈ taken, token.kind ≠ .endOfInput) ∧
      ∀ other, other.head? = left.head? → Course (taken ++ other) p other := by
  induction course with
  | ended ended =>
      refine ⟨ended, [], rfl, by simp, ?_⟩
      intro other same
      exact .ended ((atEnd_eq_of_head?_eq same).trans ended)
  | refused | faulty => cases complete
  | @kept _ rest left _ _ more read faultless _ inductionHypothesis =>
      obtain ⟨ended, later, rfl, laterGoesOn, laterAgain⟩ := inductionHypothesis complete
      obtain ⟨taken, nonempty, rfl, goesOn, readAgain⟩ := statement_locally read
      -- The statement may look at the first token behind it: that is one of the later statements,
      -- or the end itself, which the other tokens begin with as well.
      refine ⟨ended, taken ++ later, by simp, List.forall_mem_append.mpr ⟨goesOn, laterGoesOn⟩, ?_⟩
      intro other same
      rw [List.append_assoc]
      refine .kept ?_ (readAgain (later ++ other) (head?_append_eq same later)) faultless
        (laterAgain other same)
      rw [← more]
      exact atEnd_eq_of_head?_eq (head?_append_of_ne_nil nonempty _ _)

end Course

/-- The tokens before the first end of the input. -/
def beforeEnd (tokens : List Token) : List Token :=
  tokens.takeWhile fun token => token.kind != .endOfInput

/-- The first end of the input and the tokens behind it. -/
def fromEnd (tokens : List Token) : List Token :=
  tokens.dropWhile fun token => token.kind != .endOfInput

/-- Tokens are parted at the end of the input. -/
theorem parts_at_end {taken left : List Token} (goesOn : ∀ token ∈ taken, token.kind ≠ .endOfInput)
    (ended : atEnd left = true) :
    beforeEnd (taken ++ left) = taken ∧ fromEnd (taken ++ left) = left := by
  have passes : ∀ token ∈ taken, (token.kind != .endOfInput) = true := fun token member =>
    bne_iff_ne.mpr (goesOn token member)
  unfold beforeEnd fromEnd
  rw [List.takeWhile_append_of_pos passes, List.dropWhile_append_of_pos passes]
  cases left with
  | nil => simp
  | cons token rest =>
      have isEnd : token.kind = .endOfInput := by simpa [atEnd] using ended
      simp [isEnd]

/-- Every reader of the grammar that succeeds leaves a strictly shorter suffix of its tokens. So the
chains of every level, the conditionals and the programs come to their ends by themselves, whatever
the tokens; a program has no more statements than tokens; and if there is no complaint, it has taken
all tokens before the first end of the input, and those behind that have no say. -/
theorem parse_progress :
    (∀ room, ∀ read ∈ readers room, Progresses read) ∧
      (∀ room level tokens,
        SeriesEnds (reader room (level.rank + 1))
          (chainRound level (reader room (level.rank + 1))) tokens
          (reader room level.rank tokens)) ∧
      (∀ room tokens,
        SeriesEnds (reader room Level.coalesce.rank) (conditionalRound (nestedReader room)) tokens
          (expression room tokens)) ∧
      ∀ tokens, ∃ left, Course tokens (parse tokens) left ∧
        (parse tokens).statements.length + left.length ≤ tokens.length ∧
        ((parse tokens).complaint? = none →
          left = fromEnd tokens ∧
            ∀ other, other.head? = left.head? →
              parse (beforeEnd tokens ++ other) = parse tokens) := by
  refine ⟨fun room read member => progresses_of_mem_readers member, seriesEnds_chains,
    seriesEnds_conditionals, ?_⟩
  intro tokens
  obtain ⟨left, course⟩ := exists_course tokens
  refine ⟨left, course, course.length_le, ?_⟩
  intro complete
  obtain ⟨ended, taken, tokensEq, goesOn, again⟩ := course.again complete
  obtain ⟨beforeEq, fromEq⟩ := parts_at_end goesOn ended
  rw [← tokensEq] at beforeEq fromEq
  refine ⟨fromEq.symm, ?_⟩
  intro other same
  rw [beforeEq]
  exact (again other same).eq_parse

/-- Behind the end of `1; 2 + 3` stand tokens that no expression begins with. -/
theorem parse_progress_behindEnd :
    let tokens := (scan "1; 2 + 3").tokens ++ (scan ") 4").tokens
    (parse tokens).complaint? = none ∧ fromEnd tokens = .endOfInput :: (scan ") 4").tokens ∧
      parse (beforeEnd tokens ++ [.endOfInput]) = parse tokens := by
  intro tokens
  have complete : (parse tokens).complaint? = none := by decide +kernel
  have fromEq : fromEnd tokens = .endOfInput :: (scan ") 4").tokens := by decide +kernel
  obtain ⟨_, _, _, programs⟩ := parse_progress
  obtain ⟨left, _, _, settled⟩ := programs tokens
  obtain ⟨leftEq, same⟩ := settled complete
  refine ⟨complete, fromEq, same [.endOfInput] ?_⟩
  rw [leftEq, fromEq]
  rfl

end Reckon.Grammar
