/-
Module: Reckon.Proofs.ReaderSoundness
Purpose: Only the grammar is read. What the reader of a place returns derives, in the stratum of
  that place, from exactly the tokens it took. A reader is sound if the readers of its parts are, so
  the proof has one lemma a reader: loops are followed round by round with the operands so far in
  hand, and groups and branches by induction on the depth that is left.
Main exports: SoundAt, ReadsWhole, readsWhole_expression, parseExpression_derives
-/
import Reckon.Proofs.Derivation
import Reckon.Proofs.ReadBack
import Reckon.Token.Scan

namespace Reckon.Grammar

/-! ### Sound readers -/

/-- What a reader returns derives from the tokens it took, in the stratum of a rank. -/
def SoundAt (rank : Nat) (read : Parse) : Prop :=
  ∀ tokens e rest, read tokens = .ok (e, rest) →
    ∃ taken, tokens = taken ++ rest ∧ Derives rank e taken

/-- What is sound in a place is sound in the next looser one. -/
theorem SoundAt.looser {rank : Nat} {read : Parse} (sound : SoundAt (rank + 1) read) :
    SoundAt rank read := by
  intro tokens e rest found
  obtain ⟨taken, split, derives⟩ := sound tokens e rest found
  exact ⟨taken, split, .looser derives⟩

/-- A token that is taken was the first, and is of the kind asked for. -/
theorem take?_eq_some {kind : TokenKind} {tokens rest : List Token} {token : Token}
    (found : take? kind tokens = some (token, rest)) :
    tokens = token :: rest ∧ token.kind = kind := by
  cases tokens with
  | nil => cases found
  | cons head tail =>
      by_cases kindEq : head.kind = kind
      · rw [take?_of_kind kindEq] at found
        cases found
        exact ⟨rfl, kindEq⟩
      · rw [take?_of_kind_ne kindEq] at found
        cases found

/-! ### Literals, groups and signs -/

/-- A literal derives from its token. -/
theorem soundAt_leaf : SoundAt primaryRank leaf := by
  intro tokens e rest found
  unfold leaf at found
  cases tokens with
  | nil => cases found
  | cons token tokens =>
      simp only [List.head?_cons, Option.getD_some, List.tail_cons] at found
      split at found
      · next v reads =>
          cases found
          exact ⟨[token], rfl, .literal reads⟩
      · cases found

section Tight

variable {nested : Option Parse}

/-- A group derives if its inside does. -/
theorem soundAt_primary (nestedSound : ∀ read ∈ nested, SoundAt 0 read) :
    SoundAt primaryRank (primary nested) := by
  intro tokens e rest found
  unfold primary at found
  split at found
  · exact soundAt_leaf tokens e rest found
  · next paren inside opened =>
      obtain ⟨rfl, opens⟩ := take?_eq_some opened
      split at found
      · cases found
      · next read =>
          obtain ⟨⟨inner, behind⟩, insideRead, closing⟩ := bind_eq_ok.mp found
          obtain ⟨taken, rfl, derives⟩ := nestedSound read rfl inside inner behind insideRead
          dsimp only at closing
          split at closing
          · next close after closed =>
              cases closing
              obtain ⟨rfl, closes⟩ := take?_eq_some closed
              exact ⟨paren :: (taken ++ [close]), by simp, .group opens closes derives⟩
          · cases closing

theorem takeLeast?_eq_some {tokens rest : List Token} {number : Token}
    (found : takeLeast? tokens = some (number, rest)) :
    tokens = number :: rest ∧ isLeastMagnitude number = true := by
  cases tokens with
  | nil => cases found
  | cons head tail =>
      by_cases magnitude : isLeastMagnitude head = true
      · rw [takeLeast?, if_pos magnitude] at found
        cases found
        exact ⟨rfl, magnitude⟩
      · rw [takeLeast?, if_neg magnitude] at found
        cases found

/-- A sign and the operand behind it. -/
theorem derives_signed (nestedSound : ∀ read ∈ nested, SoundAt 0 read) (op : UnaryOp) {sign : Token}
    {tokens rest : List Token} {e : Expr} (signs : sign.kind = signKind op)
    (found : (do let (e, rest) ← primary nested tokens; .ok (.unary op sign.span e, rest)) =
      (.ok (e, rest) : Except Diagnostic (Expr × List Token))) :
    ∃ taken, sign :: tokens = taken ++ rest ∧ Derives signRank e taken := by
  obtain ⟨⟨operand, behind⟩, operandRead, built⟩ := bind_eq_ok.mp found
  cases built
  obtain ⟨taken, rfl, derives⟩ := soundAt_primary nestedSound tokens operand rest operandRead
  exact ⟨sign :: taken, rfl, .unary signs derives⟩

/-- A sign derives with the operand behind it, and the least integer with its magnitude. -/
theorem soundAt_signed (nestedSound : ∀ read ∈ nested, SoundAt 0 read) :
    SoundAt signRank (signed nested) := by
  intro tokens e rest found
  unfold signed at found
  split at found
  · next plus =>
      obtain ⟨rfl, signs⟩ := take?_eq_some plus
      exact derives_signed nestedSound .plus signs found
  · next sign behind _ minus =>
      obtain ⟨rfl, signs⟩ := take?_eq_some minus
      split at found
      · next number after least =>
          cases found
          obtain ⟨rfl, magnitude⟩ := takeLeast?_eq_some least
          exact ⟨[sign, number], rfl, .least signs magnitude⟩
      · exact derives_signed nestedSound .minus signs found
  · exact (soundAt_primary nestedSound).looser tokens e rest found

end Tight

/-! ### Chains -/

theorem Operator.of_family? {level : Level} {op : BinaryOp} {family : Family}
    {kinds : List TokenKind} (own : op.family? = some family) (levelEq : levelOf op = level)
    (spelled : spelling op = kinds) :
    Operator level (.binary family op) kinds := by
  subst levelEq spelled
  exact .own own

/-- A token that is read as an operator spells it. -/
theorem operator_of_operator? {level : Level} {kind : TokenKind} {joint : Joint}
    (found : level.operator? kind = some joint) : Operator level joint [kind] := by
  unfold Level.operator? at found
  split at found <;> cases found
  all_goals first | exact .coalesce | exact .orWord | exact .of_family? rfl rfl rfl

theorem operator?_eq_same {level : Level} {kind : TokenKind}
    (found : level.operator? kind = some (.binary .equality .same)) :
    level = .equality ∧ kind = .isWord := by
  unfold Level.operator? at found
  split at found <;> cases found
  exact ⟨rfl, rfl⟩

/-- What stands at the head of the tokens is read as an operator of the level. -/
theorem operator_of_joint? {level : Level} {tokens rest : List Token} {joint : Joint}
    (found : level.joint? tokens = some (joint, rest)) :
    ∃ opTokens, tokens = opTokens ++ rest ∧ Operator level joint (opTokens.map Token.kind) := by
  cases tokens with
  | nil => cases found
  | cons token tokens =>
      cases single : level.operator? token.kind with
      | none =>
          rw [Level.joint?_of_operator?_eq_none single] at found
          cases found
      | some joint' =>
          have operator := operator_of_operator? single
          by_cases same : joint' = .binary .equality .same
          · subst same
            simp only [Level.joint?, single] at found
            split at found
            · cases found
              exact ⟨[token], rfl, operator⟩
            · next next behind =>
                split at found
                · next notKind =>
                    cases found
                    refine ⟨[token, next], rfl, ?_⟩
                    obtain ⟨rfl, isKind⟩ := operator?_eq_same single
                    exact .of_family? rfl rfl (by simp [spelling, isKind, notKind])
                · cases found
                  exact ⟨[token], rfl, operator⟩
          · simp only [Level.joint?, single] at found
            cases found
            exact ⟨[token], rfl, operator⟩

/-- The rounds of a chain: what was read so far derives, and so does what comes out. -/
theorem derives_chainFrom {level : Level} {operand : Parse}
    (operandSound : SoundAt (level.rank + 1) operand) (rounds : Nat) {left e : Expr}
    {taken tokens rest : List Token} (soFar : Derives level.rank left taken)
    (found : chainFrom level operand rounds left tokens = .ok (e, rest)) :
    ∃ more, tokens = more ++ rest ∧ Derives level.rank e (taken ++ more) := by
  induction rounds generalizing left taken tokens with
  | zero =>
      cases found
      exact ⟨[], rfl, by simpa using soFar⟩
  | succ rounds inductionHypothesis =>
      unfold chainFrom at found
      split at found
      · cases found
        exact ⟨[], rfl, by simpa using soFar⟩
      · next joint behind head =>
          obtain ⟨opTokens, rfl, operator⟩ := operator_of_joint? head
          obtain ⟨⟨right, after⟩, rightRead, looped⟩ := bind_eq_ok.mp found
          obtain ⟨rightTokens, rfl, inRight⟩ := operandSound behind right after rightRead
          obtain ⟨more, rfl, derives⟩ := inductionHypothesis (.joined operator soFar inRight) looped
          exact ⟨opTokens ++ (rightTokens ++ more), by simp, by simpa using derives⟩

/-- A chain derives if its operands do. -/
theorem soundAt_chain {level : Level} {operand : Parse}
    (operandSound : SoundAt (level.rank + 1) operand) :
    SoundAt level.rank (chain level operand) := by
  intro tokens e rest found
  obtain ⟨⟨left, behind⟩, leftRead, looped⟩ := bind_eq_ok.mp found
  obtain ⟨taken, rfl, inLeft⟩ := operandSound tokens left behind leftRead
  obtain ⟨more, rfl, derives⟩ :=
    derives_chainFrom operandSound behind.length (.looser inLeft) looped
  exact ⟨taken ++ more, by simp, derives⟩

/-! ### Conditionals and whole expressions -/

/-- What a reader of whole expressions guarantees: its trees derive from the tokens it took, and it
leaves no question mark, since it would have gone on with it. -/
structure ReadsWhole (read : Parse) : Prop where
  sound : SoundAt 0 read
  noQuestion : ∀ tokens e rest, read tokens = .ok (e, rest) → take? .question rest = none

/-- The row of conditionals behind a condition has at most one: the branches take all question marks
that follow. So the condition is a chain and never a conditional itself. -/
theorem derives_conditionalsFrom {nested : Option Parse}
    (nestedWhole : ∀ read ∈ nested, ReadsWhole read) {rounds : Nat} {cond e : Expr}
    {taken tokens rest : List Token} (enough : tokens.length ≤ rounds)
    (inCond : Derives Level.coalesce.rank cond taken)
    (found : conditionalsFrom nested rounds cond tokens = .ok (e, rest)) :
    take? .question rest = none ∧ ∃ more, tokens = more ++ rest ∧ Derives 0 e (taken ++ more) := by
  cases rounds with
  | zero =>
      obtain rfl : tokens = [] := List.length_eq_zero_iff.mp (Nat.le_zero.mp enough)
      cases found
      exact ⟨rfl, [], rfl, by simpa using .looser inCond⟩
  | succ rounds =>
      unfold conditionalsFrom at found
      split at found
      · next noQuestion =>
          cases found
          exact ⟨noQuestion, [], rfl, by simpa using .looser inCond⟩
      · next question behind asked =>
          obtain ⟨rfl, asks⟩ := take?_eq_some asked
          split at found
          · cases found
          · next branch =>
              have whole := nestedWhole branch rfl
              obtain ⟨⟨ifTrue, afterTrue⟩, trueRead, continued⟩ := bind_eq_ok.mp found
              have trueEnds := whole.noQuestion behind ifTrue afterTrue trueRead
              obtain ⟨trueTokens, rfl, inTrue⟩ := whole.sound behind ifTrue afterTrue trueRead
              dsimp only at continued
              split at continued
              · rw [conditionalsFrom_of_take?_eq_none trueEnds] at continued
                cases continued
                exact ⟨trueEnds, question :: trueTokens, rfl, .guarded asks inCond inTrue⟩
              · next colon afterColon parted =>
                  obtain ⟨rfl, parts⟩ := take?_eq_some parted
                  obtain ⟨⟨ifFalse, afterFalse⟩, falseRead, ended⟩ := bind_eq_ok.mp continued
                  have falseEnds := whole.noQuestion afterColon ifFalse afterFalse falseRead
                  obtain ⟨falseTokens, rfl, inFalse⟩ :=
                    whole.sound afterColon ifFalse afterFalse falseRead
                  dsimp only at ended
                  rw [conditionalsFrom_of_take?_eq_none falseEnds] at ended
                  cases ended
                  exact ⟨falseEnds, question :: (trueTokens ++ colon :: falseTokens), by simp,
                    .conditional asks parts inCond inTrue inFalse⟩

/-- An expression is read soundly if its condition is and everything that nests in it. -/
theorem readsWhole_outermost {nested : Option Parse}
    (nestedWhole : ∀ read ∈ nested, ReadsWhole read)
    (condSound : SoundAt Level.coalesce.rank (chains (signed nested))) :
    ReadsWhole (outermost nested) := by
  have reads : ∀ tokens e rest, outermost nested tokens = .ok (e, rest) →
      take? .question rest = none ∧ ∃ taken, tokens = taken ++ rest ∧ Derives 0 e taken := by
    intro tokens e rest found
    obtain ⟨⟨cond, behind⟩, condRead, continued⟩ := bind_eq_ok.mp found
    obtain ⟨condTokens, rfl, inCond⟩ := condSound tokens cond behind condRead
    obtain ⟨ends, more, rfl, derives⟩ :=
      derives_conditionalsFrom nestedWhole (Nat.le_refl _) inCond continued
    exact ⟨ends, condTokens ++ more, by simp, derives⟩
  exact ⟨fun tokens e rest found => (reads tokens e rest found).2,
    fun tokens e rest found => (reads tokens e rest found).1⟩

/-- Expressions are read soundly, however deep they may nest. -/
theorem readsWhole_expression (room : Nat) : ReadsWhole (expression room) := by
  have readers := reader_induction ReadsWhole SoundAt
    (fun _ nestedWhole => soundAt_signed fun read member => (nestedWhole read member).sound)
    (fun _ _ => soundAt_chain) (fun _ => readsWhole_outermost) room
  exact readers.1

/-! ### Whole expressions -/

/-- A tree that is read derives, in the loosest stratum of the grammar, from the tokens that were
taken for it. Each of these that is no parenthesis is used once, in its order, in the walk through
the tree from left to right; each literal among them makes one leaf, with its value and its place;
their parentheses are balanced; and every node of the tree has an operator of its own family. -/
theorem parseExpression_derives {tokens : List Token} {e : Expr}
    (parsed : parseExpression tokens = .ok e) :
    ∃ taken rest, tokens = taken ++ rest ∧ expression nestingLimit tokens = .ok (e, rest) ∧
      Derives 0 e taken ∧ Spelled e.inOrder (withoutParens taken) ∧
      LeavesOf taken e.leaves (literalTokens taken) ∧ Balanced taken ∧ e.OwnFamilies := by
  unfold parseExpression at parsed
  cases found : expression nestingLimit tokens with
  | error diagnostic =>
      rw [found] at parsed
      cases parsed
  | ok result =>
      obtain ⟨tree, rest⟩ := result
      rw [found] at parsed
      cases parsed
      obtain ⟨taken, split, derives⟩ :=
        (readsWhole_expression nestingLimit).sound tokens _ rest found
      exact ⟨taken, rest, split, rfl, derives, derives.spelled, derives.leaves, derives.balanced,
        derives.ownFamilies⟩

/-- The tree of `-(1 or 2) is not -9223372036854775808 ? 'a' : True`. -/
def signedConditional : Expr :=
  .conditional
    (.binary .equality .notSame
      (.unary .minus ⟨0, 0, 1, 1⟩
        (.binary .logical .andWord (.value ⟨2, 3, 1, 3⟩ (.integer 1))
          (.value ⟨7, 8, 1, 8⟩ (.integer 2))))
      (.value ⟨17, 37, 1, 19⟩ (.integer Int64.minValue)))
    (.value ⟨40, 43, 1, 41⟩ (.string "a"))
    (.value ⟨46, 50, 1, 47⟩ (.bool true))

/-- A group, a negated identity, the least integer and a conditional in one expression. -/
theorem parseExpression_derives_signedConditional :
    let tokens := (scan "-(1 or 2) is not -9223372036854775808 ? 'a' : True").tokens
    parseExpression tokens = .ok signedConditional ∧
      ∃ taken rest, tokens = taken ++ rest ∧
        expression nestingLimit tokens = .ok (signedConditional, rest) ∧
        Derives 0 signedConditional taken ∧
        Spelled signedConditional.inOrder (withoutParens taken) ∧
        LeavesOf taken signedConditional.leaves (literalTokens taken) ∧ Balanced taken ∧
        signedConditional.OwnFamilies := by
  intro tokens
  have parsed : parseExpression tokens = .ok signedConditional :=
    eq_ok_of_toOption (by decide +kernel)
  exact ⟨parsed, parseExpression_derives parsed⟩

end Reckon.Grammar
