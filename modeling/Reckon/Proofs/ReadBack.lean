/-
Module: Reckon.Proofs.ReadBack
Purpose: Whatever is written is read back. The reader of a place takes exactly the tokens of a
  writing for that place, provided that the token behind them is nothing the reader would go on
  with, and gives the tree that was written, up to the spans. The proof is by induction over the
  writing. A chain is read operand by operand, so for the left operand of an operator the claim is
  stronger: the loop that reads its chain arrives behind it.
Main exports: Expr.withoutSpans, reader, reader_induction, Stops, ReadsBack, ReadsOn, Written.reads,
  parseExpression_of_written
-/
import Mathlib.Data.Nat.Init
import Reckon.Proofs.Evaluation
import Reckon.Proofs.Writing

namespace Reckon

/-- A tree with all its spans forgotten. -/
def Expr.withoutSpans : Expr → Expr
  | .value _ v => .value .endOfInput v
  | .unary op _ operand => .unary op .endOfInput operand.withoutSpans
  | .binary family op left right => .binary family op left.withoutSpans right.withoutSpans
  | .coalesce left right => .coalesce left.withoutSpans right.withoutSpans
  | .conditional cond ifTrue ifFalse =>
    .conditional cond.withoutSpans ifTrue.withoutSpans ifFalse.withoutSpans
  | .guarded cond ifTrue => .guarded cond.withoutSpans ifTrue.withoutSpans
  | .error diagnostic => .error ⟨diagnostic.complaint, .endOfInput⟩

namespace Grammar

/-! ### The readers of places -/

/-- What reads groups and branches when they may nest `room` deep. -/
def nestedReader : (room : Nat) → Option Parse
  | 0 => none
  | room + 1 => some (expression room)

/-- Expressions of any depth are read in one way, by what reads their groups and branches. -/
theorem expression_eq_outermost (room : Nat) : expression room = outermost (nestedReader room) := by
  cases room <;> rfl

/-- The reader of a place that asks for a rank. -/
def reader (room rank : Nat) : Parse :=
  if rank = 0 then expression room
  else if rank ≤ signRank then
    (Level.table.drop (rank - 1)).foldr chain (signed (nestedReader room))
  else primary (nestedReader room)

/-- The reader of a level reads chains of what the next level reads. -/
theorem reader_rank (room : Nat) (level : Level) :
    reader room level.rank = chain level (reader room (level.rank + 1)) := by
  cases level <;> rfl

theorem reader_of_signRank_lt {room rank : Nat} (lt : signRank < rank) :
    reader room rank = primary (nestedReader room) := by
  have pos : rank ≠ 0 := by omega
  simp [reader, pos, Nat.not_le.mpr lt]

/-- Between whole expressions and signs, every rank is that of a level. -/
theorem Level.exists_rank_eq {n : Nat} (pos : 0 < n) (lt : n < signRank) :
    ∃ level : Level, level.rank = n := by
  have inTable : ∀ n < signRank, 0 < n → ∃ level ∈ Level.table, level.rank = n := by
    decide
  obtain ⟨level, _, rankEq⟩ := inTable n lt pos
  exact ⟨level, rankEq⟩

/-- Induction over the readers. What readers of nested expressions give to an operand with its sign,
operands to the chain between them, and a condition with its branches to the whole expression, every
reader has: whole expressions by induction on how deep they may nest, chains from the tightest level
to the loosest. -/
theorem reader_induction (Whole : Parse → Prop) (At : Nat → Parse → Prop)
    (tight : ∀ nested : Option Parse, (∀ read ∈ nested, Whole read) → At signRank (signed nested))
    (chained : ∀ (level : Level) (operand : Parse), At (level.rank + 1) operand →
      At level.rank (chain level operand))
    (whole : ∀ nested : Option Parse, (∀ read ∈ nested, Whole read) →
      At Level.coalesce.rank (chains (signed nested)) → Whole (outermost nested))
    (room : Nat) :
    Whole (expression room) ∧ ∀ rank, 0 < rank → rank ≤ signRank → At rank (reader room rank) := by
  have ranks : ∀ room, (∀ read ∈ nestedReader room, Whole read) →
      ∀ rank, 0 < rank → rank ≤ signRank → At rank (reader room rank) := by
    intro room nestedWhole rank pos within
    induction within using Nat.decreasingInduction with
    | self => exact tight _ nestedWhole
    | of_succ rank within operands =>
        obtain ⟨level, rfl⟩ := Level.exists_rank_eq pos within
        rw [reader_rank]
        exact chained level _ (operands (Nat.succ_pos _))
  have step : ∀ room, (∀ read ∈ nestedReader room, Whole read) → Whole (expression room) := by
    intro room nestedWhole
    rw [expression_eq_outermost]
    exact whole _ nestedWhole (ranks room nestedWhole Level.coalesce.rank (by decide) (by decide))
  have nestedWhole : ∀ read ∈ nestedReader room, Whole read := by
    induction room with
    | zero => rintro read ⟨⟩
    | succ room nested =>
        rintro read ⟨⟩
        exact step room nested
  exact ⟨step room nestedWhole, ranks room nestedWhole⟩

/-- What reads groups and branches is a reader of whole expressions. -/
theorem forall_nestedReader {Whole : Parse → Prop} (whole : ∀ room, Whole (expression room))
    (room : Nat) : ∀ read ∈ nestedReader room, Whole read := by
  cases room with
  | zero => rintro read ⟨⟩
  | succ room =>
      rintro read ⟨⟩
      exact whole room

theorem Level.eq_of_rank_eq {level other : Level} (rankEq : level.rank = other.rank) :
    level = other := by
  revert rankEq
  cases level <;> cases other <;> decide

/-! ### What stops a reader -/

/-- Tokens at which the reader of a place stops: no operator of the levels in its reach is at their
head, and behind a whole expression neither is a question mark or a colon. -/
structure Stops (rank : Nat) (rest : List Token) : Prop where
  joint : ∀ level : Level, rank ≤ level.rank → level.joint? rest = none
  question : rank = 0 → take? .question rest = none
  colon : rank = 0 → take? .colon rest = none

theorem take?_of_kind {token : Token} {kind : TokenKind} (kindEq : token.kind = kind)
    (rest : List Token) : take? kind (token :: rest) = some (token, rest) := by
  simp [take?, kindEq]

theorem take?_of_kind_ne {token : Token} {kind : TokenKind} (ne : token.kind ≠ kind)
    (rest : List Token) : take? kind (token :: rest) = none := by
  simp [take?, ne]

theorem Level.joint?_of_operator?_eq_none {level : Level} {token : Token}
    (noOperator : level.operator? token.kind = none) (rest : List Token) :
    level.joint? (token :: rest) = none := by
  simp [joint?, noOperator]

/-- What stops a reader stops the readers of tighter places. -/
theorem Stops.tighten {rank higher : Nat} {rest : List Token} (stops : Stops rank rest)
    (le : rank ≤ higher) : Stops higher rest where
  joint level within := stops.joint level (Nat.le_trans le within)
  question zero := stops.question (by omega)
  colon zero := stops.colon (by omega)

/-- A token that is no operator in reach stops a reader. -/
theorem stops_of_operator?_eq_none {rank : Nat} {token : Token}
    (noOperator : ∀ level : Level, rank ≤ level.rank → level.operator? token.kind = none)
    (inside : rank = 0 → token.kind ≠ .question ∧ token.kind ≠ .colon) (rest : List Token) :
    Stops rank (token :: rest) where
  joint level within := level.joint?_of_operator?_eq_none (noOperator level within) rest
  question zero := take?_of_kind_ne (inside zero).1 rest
  colon zero := take?_of_kind_ne (inside zero).2 rest

/-- A closing parenthesis and the end of the input stop every reader. -/
theorem stops_of_closing {token : Token}
    (closes : token.kind = .rightParen ∨ token.kind = .endOfInput) (rank : Nat)
    (rest : List Token) : Stops rank (token :: rest) := by
  apply stops_of_operator?_eq_none
  · intro level _
    rcases closes with kindEq | kindEq <;> rw [kindEq] <;> cases level <;> rfl
  · intro _
    rcases closes with kindEq | kindEq <;> simp [kindEq]

/-- The marks of a conditional stop the readers of chains. -/
theorem stops_of_mark {token : Token} (mark : token.kind = .question ∨ token.kind = .colon)
    {rank : Nat} (pos : 0 < rank) (rest : List Token) : Stops rank (token :: rest) := by
  apply stops_of_operator?_eq_none
  · intro level _
    rcases mark with kindEq | kindEq <;> rw [kindEq] <;> cases level <;> rfl
  · intro zero
    omega

/-! ### Operators -/

theorem ne_nil_of_spelling {op : BinaryOp} {opTokens : List Token}
    (spelled : opTokens.map Token.kind = spelling op) : opTokens ≠ [] := by
  rintro rfl
  cases op <;> cases spelled

/-- The token that an operator begins with is an operator of no other level. -/
theorem operator?_of_ne_levelOf {op : BinaryOp} {level : Level} (ne : level ≠ levelOf op) :
    (spelling op).head?.bind level.operator? = none := by
  revert ne
  cases op <;> cases level <;> decide

/-- An operator stops the readers of all tighter places. -/
theorem stops_of_spelling {op : BinaryOp} {opTokens : List Token}
    (spelled : opTokens.map Token.kind = spelling op) (rest : List Token) :
    Stops ((levelOf op).rank + 1) (opTokens ++ rest) := by
  cases opTokens with
  | nil => exact absurd rfl (ne_nil_of_spelling spelled)
  | cons token more =>
      apply stops_of_operator?_eq_none
      · intro level within
        have ne : level ≠ levelOf op := by
          rintro rfl
          omega
        have noOperator := operator?_of_ne_levelOf ne
        rw [← spelled] at noOperator
        exact noOperator
      · intro zero
        omega

/-- All operators but one are a single token. -/
theorem operator?_of_family? {op : BinaryOp} {family : Family} (own : op.family? = some family)
    (ne : op ≠ .notSame) :
    (spelling op).map (levelOf op).operator? = [some (.binary family op)] := by
  revert ne
  cases op <;> cases own <;> decide

/-- The operator of a binary node is read back, if the word `not` does not stand behind it. -/
theorem joint?_of_spelling {op : BinaryOp} {family : Family} (own : op.family? = some family)
    {opTokens : List Token} (spelled : opTokens.map Token.kind = spelling op) {head : Token}
    (noWord : head.kind ≠ .notWord) (rest : List Token) :
    (levelOf op).joint? (opTokens ++ head :: rest) = some (.binary family op, head :: rest) := by
  by_cases notSame : op = .notSame
  · subst notSame
    cases own
    obtain ⟨isToken, _, rfl, isKind, spelled⟩ := List.map_eq_cons_iff.mp spelled
    obtain ⟨notToken, _, rfl, notKind, ended⟩ := List.map_eq_cons_iff.mp spelled
    obtain rfl := List.map_eq_nil_iff.mp ended
    have found : Level.equality.operator? isToken.kind = some (.binary .equality .same) := by
      rw [isKind]
      rfl
    simp [levelOf, Level.joint?, found, notKind]
  · have single := operator?_of_family? own notSame
    rw [← spelled, List.map_map] at single
    obtain ⟨token, _, rfl, found, ended⟩ := List.map_eq_cons_iff.mp single
    obtain rfl := List.map_eq_nil_iff.mp ended
    rw [Function.comp_apply] at found
    -- Behind the word `is` alone the next token matters.
    by_cases same : op = .same
    · subst same
      cases own
      simp [Level.joint?, found, noWord]
    · simp [Level.joint?, found, same]

/-! ### Reading back -/

/-- The reader of a place reads a tree back from its tokens, whatever stops it behind them. -/
def ReadsBack (rank depth : Nat) (e : Expr) (tokens : List Token) : Prop :=
  ∀ room rest, depth ≤ room → Stops rank rest →
    ∃ e', e'.withoutSpans = e.withoutSpans ∧ reader room rank (tokens ++ rest) = .ok (e', rest)

/-- The reader of chains of a level arrives behind the tokens of a tree with that tree in hand,
ready to go on with operators of its level. -/
def ReadsOn (level : Level) (depth : Nat) (e : Expr) (tokens : List Token) : Prop :=
  ∀ room rest, depth ≤ room → Stops (level.rank + 1) rest →
    ∃ e' rounds, e'.withoutSpans = e.withoutSpans ∧ rest.length ≤ rounds ∧
      reader room level.rank (tokens ++ rest) =
        chainFrom level (reader room (level.rank + 1)) rounds e' rest

/-- What the induction shows of a writing. -/
structure Reads (rank depth : Nat) (e : Expr) (tokens : List Token) : Prop where
  back : ReadsBack rank depth e tokens
  on : ∀ level : Level, level.rank = rank → ReadsOn level depth e tokens

section Places

variable {rank depth : Nat} {level : Level} {e : Expr} {tokens : List Token}

theorem chainFrom_of_joint?_eq_none {operand : Parse} {left : Expr} {rest : List Token}
    (noJoint : level.joint? rest = none) (rounds : Nat) :
    chainFrom level operand rounds left rest = .ok (left, rest) := by
  cases rounds with
  | zero => rfl
  | succ rounds => simp [chainFrom, noJoint]

/-- Without a question mark there is no round of conditionals. -/
theorem conditionalsFrom_of_take?_eq_none {nested : Option Parse} {cond : Expr}
    {rest : List Token} (noQuestion : take? .question rest = none) (rounds : Nat) :
    conditionalsFrom nested rounds cond rest = .ok (cond, rest) := by
  cases rounds with
  | zero => rfl
  | succ rounds => simp [conditionalsFrom, noQuestion]

/-- An operand of a level is a chain of that level by itself. -/
theorem ReadsBack.readsOn (reads : ReadsBack (level.rank + 1) depth e tokens) :
    ReadsOn level depth e tokens := by
  intro room rest fits stops
  obtain ⟨e', same, readEq⟩ := reads room rest fits stops
  refine ⟨e', rest.length, same, Nat.le_refl _, ?_⟩
  simp [reader_rank, chain, readEq]

/-- Where no operator of the level follows, the chain ends. -/
theorem ReadsOn.readsBack (reads : ReadsOn level depth e tokens) :
    ReadsBack level.rank depth e tokens := by
  intro room rest fits stops
  obtain ⟨e', rounds, same, _, readEq⟩ := reads room rest fits (stops.tighten (Nat.le_succ _))
  refine ⟨e', same, ?_⟩
  rw [readEq]
  exact chainFrom_of_joint?_eq_none (stops.joint level (Nat.le_refl _)) rounds

/-- A chain is an expression by itself, if no question mark follows. -/
theorem ReadsBack.expression (reads : ReadsBack Level.coalesce.rank depth e tokens) (room : Nat)
    {rest : List Token} (fits : depth ≤ room) (stops : Stops Level.coalesce.rank rest)
    (noQuestion : take? .question rest = none) :
    ∃ e', e'.withoutSpans = e.withoutSpans ∧ expression room (tokens ++ rest) = .ok (e', rest) := by
  obtain ⟨e', same, readEq⟩ := reads room rest fits stops
  refine ⟨e', same, ?_⟩
  have chainsEq : chains (signed (nestedReader room)) (tokens ++ rest) = .ok (e', rest) := readEq
  rw [expression_eq_outermost]
  simp [outermost, chainsEq, conditionalsFrom_of_take?_eq_none noQuestion]

/-- What is read back at a place is read back at the next looser one. -/
theorem ReadsBack.loosen_succ (reads : ReadsBack (rank + 1) depth e tokens)
    (within : rank < signRank) : ReadsBack rank depth e tokens := by
  by_cases zero : rank = 0
  · subst zero
    intro room rest fits stops
    exact reads.expression room fits (stops.tighten (Nat.zero_le _)) (stops.question rfl)
  · obtain ⟨level, rfl⟩ := Level.exists_rank_eq (Nat.pos_of_ne_zero zero) within
    exact reads.readsOn.readsBack

/-- What is read back in a place is read back in looser ones, where nothing more is taken. -/
theorem ReadsBack.loosen {lower : Nat} (reads : ReadsBack rank depth e tokens)
    (within : rank ≤ signRank) (le : lower ≤ rank) : ReadsBack lower depth e tokens := by
  induction rank with
  | zero =>
      obtain rfl := Nat.le_zero.mp le
      exact reads
  | succ rank inductionHypothesis =>
      by_cases eq : lower = rank + 1
      · subst eq
        exact reads
      · exact inductionHypothesis (reads.loosen_succ within) (by omega) (by omega)

/-- What is read back at a place is read at every looser one. -/
theorem ReadsBack.reads_of_lt {lower : Nat} (reads : ReadsBack rank depth e tokens)
    (within : rank ≤ signRank) (lt : lower < rank) : Reads lower depth e tokens where
  back := reads.loosen within (Nat.le_of_lt lt)
  on level rankEq := by
    subst rankEq
    exact (reads.loosen within lt).readsOn

theorem ReadsOn.reads (reads : ReadsOn level depth e tokens) (loose : rank ≤ level.rank) :
    Reads rank depth e tokens := by
  by_cases eq : rank = level.rank
  · subst eq
    refine ⟨reads.readsBack, fun other rankEq => ?_⟩
    obtain rfl := Level.eq_of_rank_eq rankEq
    exact reads
  · exact reads.readsBack.reads_of_lt (Nat.le_of_lt level.rank_lt_signRank) (by omega)

theorem ReadsBack.reads (reads : ReadsBack signRank depth e tokens) (loose : rank ≤ signRank) :
    Reads rank depth e tokens := by
  by_cases eq : rank = signRank
  · subst eq
    refine ⟨reads, fun level rankEq => ?_⟩
    exact absurd rankEq (Nat.ne_of_lt level.rank_lt_signRank)
  · exact reads.reads_of_lt (Nat.le_refl _) (by omega)

end Places

/-! ### Literals, groups and signs -/

theorem readInt?_of_readNat? {cs : List Char} {n : Nat} (read : readNat? cs = some n) :
    readInt? cs = some (Int.ofNat n) := by
  revert read
  unfold readNat? readInt?
  split
  · intro read
    simp [read]
  · intro read
    split
    · contradiction
    · simp [readDigits?] at read
    · simp [read]

/-- The magnitude of the least integer is no literal by itself. -/
theorem isLeastMagnitude_of_literal {token : Token} {v : Value} (reads : literal token = .ok v) :
    isLeastMagnitude token = false := by
  apply Bool.eq_false_iff.mpr
  intro least
  simp only [isLeastMagnitude, Bool.and_eq_true, beq_iff_eq, Option.bind_eq_some_iff] at least
  obtain ⟨integer, text, valueEq, magnitude⟩ := least
  have tooLarge : int64? 9223372036854775808 = none := by decide
  simp [literal, integer, valueEq, readInt?_of_readNat? magnitude, tooLarge] at reads

section Tight

variable {rank depth : Nat} {e : Expr} {head : Token} {tail : List Token}

theorem signed_of_kind_ne {nested : Option Parse} (noPlus : head.kind ≠ .plus)
    (noMinus : head.kind ≠ .minus) :
    signed nested (head :: tail) = primary nested (head :: tail) := by
  simp [signed, take?_of_kind_ne noPlus, take?_of_kind_ne noMinus]

/-- What the reader of literals and groups reads back is read at all places, if it does not begin
with a sign. -/
theorem reads_of_primary (noPlus : head.kind ≠ .plus) (noMinus : head.kind ≠ .minus)
    (readsPrimary : ∀ room rest, depth ≤ room → ∃ e', e'.withoutSpans = e.withoutSpans ∧
      primary (nestedReader room) (head :: (tail ++ rest)) = .ok (e', rest)) :
    Reads rank depth e (head :: tail) := by
  by_cases loose : rank ≤ signRank
  · refine ReadsBack.reads ?_ loose
    intro room rest fits _
    obtain ⟨e', same, readEq⟩ := readsPrimary room rest fits
    exact ⟨e', same, (signed_of_kind_ne noPlus noMinus).trans readEq⟩
  · have lt : signRank < rank := by omega
    constructor
    · intro room rest fits _
      obtain ⟨e', same, readEq⟩ := readsPrimary room rest fits
      exact ⟨e', same, by rw [reader_of_signRank_lt lt]; exact readEq⟩
    · intro level rankEq
      have := level.rank_lt_signRank
      omega

/-- A literal is read back in every place. -/
theorem reads_literal {span : Span} {v : Value} (reads : literal head = .ok v) :
    Reads rank 0 (.value span v) [head] := by
  have kinds := literal_kind reads
  apply reads_of_primary
  · intro plus
    simp [plus] at kinds
  · intro minus
    simp [minus] at kinds
  · intro room rest _
    have noParen : head.kind ≠ .leftParen := by
      intro paren
      simp [paren] at kinds
    refine ⟨.value head.span v, rfl, ?_⟩
    simp [primary, take?_of_kind_ne noParen, leaf, reads]

/-- A group is read back in every place, if its inside is read back. -/
theorem reads_group {opening closing : Token} {tokens : List Token}
    (opens : opening.kind = .leftParen) (closes : closing.kind = .rightParen)
    (inside : Reads 0 depth e tokens) :
    Reads rank (depth + 1) e (opening :: (tokens ++ [closing])) := by
  apply reads_of_primary
  · simp [opens]
  · simp [opens]
  · intro room rest fits
    cases room with
    | zero => omega
    | succ room =>
        obtain ⟨e', same, readEq⟩ := inside.back room (closing :: rest) (by omega)
          (stops_of_closing (.inl closes) 0 rest)
        have insideEq : expression room (tokens ++ closing :: rest) = .ok (e', closing :: rest) :=
          readEq
        refine ⟨e', same, ?_⟩
        simp [primary, take?_of_kind opens, nestedReader, insideEq, take?_of_kind closes]

/-- The least integer is read back from its sign and magnitude. -/
theorem reads_least {span : Span} {sign number : Token} (loose : rank ≤ signRank)
    (minus : sign.kind = .minus) (magnitude : isLeastMagnitude number = true) :
    Reads rank 0 (.value span (.integer Int64.minValue)) [sign, number] := by
  refine ReadsBack.reads ?_ loose
  intro room rest _ _
  have noPlus : sign.kind ≠ .plus := by simp [minus]
  refine ⟨.value (sign.span.extendBack number.span) (.integer Int64.minValue), rfl, ?_⟩
  have signedEq : signed (nestedReader room) (sign :: number :: rest) =
      .ok (.value (sign.span.extendBack number.span) (.integer Int64.minValue), rest) := by
    simp [signed, take?_of_kind_ne noPlus, take?_of_kind minus, takeLeast?, magnitude]
  exact signedEq

/-- An operand behind a sign does not begin with the magnitude of the least integer. -/
theorem Written.takeLeast?_eq_none {operand : Expr} {tokens : List Token}
    (written : Written primaryRank depth operand tokens) (rest : List Token) :
    takeLeast? (tokens ++ rest) = none := by
  have tight : ¬ primaryRank ≤ signRank := by decide
  cases written with
  | literal reads => simp [takeLeast?, isLeastMagnitude_of_literal reads]
  | least loose _ _ => exact absurd loose tight
  | group opens _ _ => simp [takeLeast?, isLeastMagnitude, opens]
  | unary loose _ _ => exact absurd loose tight
  | @binary _ _ _ _ op _ _ _ _ _ loose _ _ _ _ =>
      exact absurd (Nat.le_trans loose (Nat.le_of_lt (levelOf op).rank_lt_signRank)) tight
  | coalesce loose _ _ _ =>
      exact absurd (Nat.le_trans loose (Nat.le_of_lt Level.coalesce.rank_lt_signRank)) tight

/-- A sign is read back if its operand is. -/
theorem reads_unary {op : UnaryOp} {opSpan : Span} {operand : Expr} {sign : Token}
    {tokens : List Token} (loose : rank ≤ signRank) (signs : sign.kind = signKind op)
    (inOperand : Written primaryRank depth operand tokens)
    (reads : Reads primaryRank depth operand tokens) :
    Reads rank depth (.unary op opSpan operand) (sign :: tokens) := by
  refine ReadsBack.reads ?_ loose
  intro room rest fits stops
  obtain ⟨operand', same, readEq⟩ := reads.back room rest fits (stops.tighten (by decide))
  have primaryEq : primary (nestedReader room) (tokens ++ rest) = .ok (operand', rest) := readEq
  refine ⟨.unary op sign.span operand', by simp [Expr.withoutSpans, same], ?_⟩
  have signedEq : signed (nestedReader room) (sign :: (tokens ++ rest)) =
      .ok (.unary op sign.span operand', rest) := by
    cases op with
    | plus =>
        have plus : sign.kind = .plus := signs
        simp [signed, take?_of_kind plus, primaryEq]
    | minus =>
        have noPlus : sign.kind ≠ .plus := by simp [signs, signKind]
        have minus : sign.kind = .minus := signs
        simp [signed, take?_of_kind_ne noPlus, take?_of_kind minus,
          inOperand.takeLeast?_eq_none rest, primaryEq]
  exact signedEq

end Tight

/-! ### Chains and conditionals -/

section Loose

variable {leftDepth rightDepth : Nat} {left right : Expr}
  {leftTokens opTokens rightTokens : List Token}

/-- One round of a chain: the loop is behind the left operand, takes the operator, reads the right
operand at the next rank and is behind the whole. -/
theorem ReadsOn.joined {level : Level} (joint : Joint)
    (leftOn : ReadsOn level leftDepth left leftTokens)
    (rightBack : ReadsBack (level.rank + 1) rightDepth right rightTokens)
    (nonempty : opTokens ≠ [])
    (stopsLeft : ∀ rest, Stops (level.rank + 1) (opTokens ++ rest))
    (found : ∀ rest, level.joint? (opTokens ++ (rightTokens ++ rest)) =
      some (joint, rightTokens ++ rest)) :
    ReadsOn level (max leftDepth rightDepth) (joint.build left right)
      (leftTokens ++ (opTokens ++ rightTokens)) := by
  intro room rest fits stops
  obtain ⟨left', rounds, leftSame, enough, leftEq⟩ :=
    leftOn room (opTokens ++ (rightTokens ++ rest)) (by omega) (stopsLeft _)
  obtain ⟨right', rightSame, rightEq⟩ := rightBack room rest (by omega) stops
  -- The loop has the operator still before it, so a round is left for it.
  have opPos : 0 < opTokens.length := List.length_pos_iff.mpr nonempty
  simp only [List.length_append] at enough
  cases rounds with
  | zero => omega
  | succ rounds =>
      refine ⟨joint.build left' right', rounds, ?_, by omega, ?_⟩
      · cases joint <;> simp [Joint.build, Expr.withoutSpans, leftSame, rightSame]
      · simp only [List.append_assoc, leftEq]
        simp [chainFrom, found, rightEq]

variable {condDepth trueDepth falseDepth : Nat} {cond ifTrue ifFalse : Expr}
  {question colon : Token} {condTokens trueTokens falseTokens : List Token}

/-- A whole expression is read up to the question mark behind its condition. -/
theorem expression_of_cond (condBack : ReadsBack Level.coalesce.rank condDepth cond condTokens)
    (room : Nat) (fits : condDepth ≤ room) (asks : question.kind = .question)
    (rest : List Token) :
    ∃ cond', cond'.withoutSpans = cond.withoutSpans ∧
      expression room (condTokens ++ question :: rest) =
        conditionalsFrom (nestedReader room) (rest.length + 1) cond' (question :: rest) := by
  have pos : 0 < Level.coalesce.rank := by decide
  obtain ⟨cond', same, readEq⟩ := condBack room (question :: rest) fits
    (stops_of_mark (.inl asks) pos rest)
  have chainsEq : chains (signed (nestedReader room)) (condTokens ++ question :: rest) =
      .ok (cond', question :: rest) := readEq
  refine ⟨cond', same, ?_⟩
  rw [expression_eq_outermost]
  simp [outermost, chainsEq]

/-- A conditional without an alternative is read back if its condition and branch are. -/
theorem readsBack_guarded (asks : question.kind = .question)
    (condBack : ReadsBack Level.coalesce.rank condDepth cond condTokens)
    (trueBack : ReadsBack 0 trueDepth ifTrue trueTokens) :
    ReadsBack 0 (max condDepth (trueDepth + 1)) (.guarded cond ifTrue)
      (condTokens ++ question :: trueTokens) := by
  intro room rest fits stops
  cases room with
  | zero => omega
  | succ room =>
      obtain ⟨cond', condSame, condEq⟩ :=
        expression_of_cond condBack (room + 1) (by omega) asks (trueTokens ++ rest)
      obtain ⟨ifTrue', trueSame, trueEq⟩ := trueBack room rest (by omega) stops
      have branchEq : expression room (trueTokens ++ rest) = .ok (ifTrue', rest) := trueEq
      refine ⟨.guarded cond' ifTrue', by simp [Expr.withoutSpans, condSame, trueSame], ?_⟩
      have wholeEq : expression (room + 1) (condTokens ++ question :: (trueTokens ++ rest)) =
          .ok (.guarded cond' ifTrue', rest) := by
        rw [condEq]
        simp [conditionalsFrom, take?_of_kind asks, nestedReader, branchEq, stops.colon rfl,
          conditionalsFrom_of_take?_eq_none (stops.question rfl)]
      simpa [reader] using wholeEq

/-- A conditional is read back if its three parts are. -/
theorem readsBack_conditional (asks : question.kind = .question) (parts : colon.kind = .colon)
    (condBack : ReadsBack Level.coalesce.rank condDepth cond condTokens)
    (trueBack : ReadsBack Level.coalesce.rank trueDepth ifTrue trueTokens)
    (falseBack : ReadsBack 0 falseDepth ifFalse falseTokens) :
    ReadsBack 0 (max condDepth (max trueDepth falseDepth + 1)) (.conditional cond ifTrue ifFalse)
      (condTokens ++ question :: (trueTokens ++ colon :: falseTokens)) := by
  intro room rest fits stops
  cases room with
  | zero => omega
  | succ room =>
      obtain ⟨cond', condSame, condEq⟩ :=
        expression_of_cond condBack (room + 1) (by omega) asks
          (trueTokens ++ colon :: (falseTokens ++ rest))
      -- The branch is a chain and no conditional, so it does not take the colon for its own.
      have noQuestion : colon.kind ≠ .question := by simp [parts]
      have pos : 0 < Level.coalesce.rank := by decide
      obtain ⟨ifTrue', trueSame, trueEq⟩ := trueBack.expression room (by omega)
        (stops_of_mark (.inr parts) pos (falseTokens ++ rest)) (take?_of_kind_ne noQuestion _)
      obtain ⟨ifFalse', falseSame, falseEq⟩ := falseBack room rest (by omega) stops
      have branchEq : expression room (falseTokens ++ rest) = .ok (ifFalse', rest) := falseEq
      refine ⟨.conditional cond' ifTrue' ifFalse',
        by simp [Expr.withoutSpans, condSame, trueSame, falseSame], ?_⟩
      have wholeEq : expression (room + 1)
          (condTokens ++ question :: (trueTokens ++ colon :: (falseTokens ++ rest))) =
          .ok (.conditional cond' ifTrue' ifFalse', rest) := by
        rw [condEq]
        simp [conditionalsFrom, take?_of_kind asks, take?_of_kind parts, nestedReader, trueEq,
          branchEq, stops.question rfl]
      simpa [reader] using wholeEq

end Loose

/-- An expression is no chain of a level, so reading it back is all there is to show. -/
theorem ReadsBack.reads_zero {depth : Nat} {e : Expr} {tokens : List Token}
    (reads : ReadsBack 0 depth e tokens) : Reads 0 depth e tokens where
  back := reads
  on level rankEq := absurd rankEq (Nat.ne_of_gt level.rank_pos)

/-- Every writing is read back. -/
theorem Written.reads {rank depth : Nat} {e : Expr} {tokens : List Token}
    (written : Written rank depth e tokens) : Reads rank depth e tokens := by
  induction written with
  | literal reads => exact reads_literal reads
  | least loose minus magnitude => exact reads_least loose minus magnitude
  | group opens closes _ inside => exact reads_group opens closes inside
  | unary loose signs inOperand operand => exact reads_unary loose signs inOperand operand
  | @binary _ _ _ family op _ _ _ opTokens rightTokens loose own spelled _ inRight left right =>
      have found : ∀ rest, (levelOf op).joint? (opTokens ++ (rightTokens ++ rest)) =
          some (.binary family op, rightTokens ++ rest) := by
        intro rest
        -- The right operand does not begin with `not`, which would make `is` another operator.
        obtain ⟨head, tail, rfl, noWord⟩ := inRight.exists_head
        exact joint?_of_spelling own spelled noWord (tail ++ rest)
      exact ((left.on _ rfl).joined (.binary family op) right.back (ne_nil_of_spelling spelled)
        (stops_of_spelling spelled) found).reads loose
  | @coalesce _ _ _ _ _ _ opTokens rightTokens loose spelled _ _ left right =>
      have found : ∀ rest, Level.coalesce.joint? (opTokens ++ (rightTokens ++ rest)) =
          some (.coalesce, rightTokens ++ rest) := by
        intro rest
        obtain ⟨token, _, rfl, kindEq, ended⟩ := List.map_eq_cons_iff.mp spelled
        obtain rfl := List.map_eq_nil_iff.mp ended
        have found : Level.coalesce.operator? token.kind = some .coalesce := by
          rw [kindEq]
          rfl
        simp [Level.joint?, found]
      exact ((left.on _ rfl).joined .coalesce right.back (ne_nil_of_spelling spelled)
        (stops_of_spelling spelled) found).reads loose
  | guarded asks _ _ cond ifTrue => exact (readsBack_guarded asks cond.back ifTrue.back).reads_zero
  | conditional asks parts _ _ _ cond ifTrue ifFalse =>
      exact (readsBack_conditional asks parts cond.back ifTrue.back ifFalse.back).reads_zero

/-! ### Whole expressions -/

/-- Just the trees with operators of their own families over leaves that have tokens are written at
all. From every writing of such a tree, with whatever parentheses, the reader of expressions gets
the tree itself, up to spans, if groups and branches nest no deeper than the limit. -/
theorem parseExpression_of_written (e : Expr) :
    (Writable e ↔ ∃ depth tokens, Written 0 depth e tokens) ∧
      ∀ depth tokens eof rest, Written 0 depth e tokens → depth ≤ nestingLimit →
        eof.kind = .endOfInput →
        (parseExpression (tokens ++ eof :: rest)).map Expr.withoutSpans = .ok e.withoutSpans := by
  refine ⟨⟨fun writable => exists_written writable 0, ?_⟩, ?_⟩
  · rintro ⟨depth, tokens, written⟩
    exact written.writable
  · intro depth tokens eof rest written shallow ends
    obtain ⟨e', same, readEq⟩ := written.reads.back nestingLimit (eof :: rest) shallow
      (stops_of_closing (.inr ends) 0 rest)
    have expressionEq : expression nestingLimit (tokens ++ eof :: rest) = .ok (e', eof :: rest) :=
      readEq
    simp only [parseExpression, expressionEq, Except.map, same]

/-- The integer that some digits stand for. -/
def digitsToken (text : String) : Token :=
  ⟨.integer, some text, text, .endOfInput⟩

/-- An integer as a leaf. -/
def integerLeaf (n : Int64) : Expr :=
  .value .endOfInput (.integer n)

/-- The tree of `1 is not -9223372036854775808 and null ? (null ?? 2 ? 3) : ((5)) - 2 - 1`. -/
def conditionalSample : Expr :=
  .conditional
    (.binary .logical .andWord
      (.binary .equality .notSame (integerLeaf 1) (integerLeaf Int64.minValue))
      (.value .endOfInput .null))
    (.guarded (.coalesce (.value .endOfInput .null) (integerLeaf 2)) (integerLeaf 3))
    (.binary .additive .minus
      (.binary .additive .minus (integerLeaf 5) (integerLeaf 2)) (integerLeaf 1))

/-- The tokens of `1 is not -9223372036854775808 and null ? (null ?? 2 ? 3) : ((5)) - 2 - 1`. -/
def conditionalTokens : List Token :=
  [digitsToken "1", tokenOf .isWord, tokenOf .notWord, tokenOf .minus,
    digitsToken "9223372036854775808", tokenOf .andWord, tokenOf .null, tokenOf .question,
    tokenOf .leftParen, tokenOf .null, tokenOf .questionQuestion, digitsToken "2",
    tokenOf .question, digitsToken "3", tokenOf .rightParen, tokenOf .colon, tokenOf .leftParen,
    tokenOf .leftParen, digitsToken "5", tokenOf .rightParen, tokenOf .rightParen, tokenOf .minus,
    digitsToken "2", tokenOf .minus, digitsToken "1"]

theorem written_conditionalSample : Written 0 3 conditionalSample conditionalTokens := by
  have one {rank : Nat} : Written rank 0 (integerLeaf 1) [digitsToken "1"] := .literal rfl
  have two {rank : Nat} : Written rank 0 (integerLeaf 2) [digitsToken "2"] := .literal rfl
  have three {rank : Nat} : Written rank 0 (integerLeaf 3) [digitsToken "3"] := .literal rfl
  have five {rank : Nat} : Written rank 0 (integerLeaf 5) [digitsToken "5"] := .literal rfl
  have null {rank : Nat} : Written rank 0 (.value .endOfInput .null) [tokenOf .null] := .literal rfl
  have least : Written 9 0 (integerLeaf Int64.minValue)
      [tokenOf .minus, digitsToken "9223372036854775808"] := .least (by decide) rfl (by decide)
  have opens : (tokenOf .leftParen).kind = .leftParen := rfl
  have closes : (tokenOf .rightParen).kind = .rightParen := rfl
  have asks : (tokenOf .question).kind = .question := rfl
  have parts : (tokenOf .colon).kind = .colon := rfl
  have minus := map_kind_tokenOf (spelling .minus)
  have cond : Written 1 _ _ _ := .binary (by decide) rfl (map_kind_tokenOf (spelling .andWord))
    (.binary (by decide) rfl (map_kind_tokenOf (spelling .notSame)) one least) null
  have ifTrue : Written 1 _ _ _ := .group opens closes (.guarded asks
    (.coalesce (by decide) (map_kind_tokenOf (spelling .coalesce)) null two) three)
  have ifFalse : Written 0 _ _ _ := .binary (by decide) rfl minus
    (.binary (by decide) rfl minus (.group opens closes (.group opens closes five)) two) one
  exact .conditional asks parts cond ifTrue ifFalse

/-- A tree with groups, signs and conditionals in each other is read back. -/
theorem parseExpression_conditionalTokens :
    Written 0 3 conditionalSample conditionalTokens ∧ 3 ≤ nestingLimit ∧
      Token.endOfInput.kind = .endOfInput ∧
      (parseExpression (conditionalTokens ++ [.endOfInput])).map Expr.withoutSpans =
        .ok conditionalSample.withoutSpans := by
  have shallow : 3 ≤ nestingLimit := by decide
  exact ⟨written_conditionalSample, shallow, rfl, (parseExpression_of_written conditionalSample).2 3
    conditionalTokens .endOfInput [] written_conditionalSample shallow rfl⟩

end Grammar

end Reckon
