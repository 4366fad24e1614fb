/-
Module: Reckon.Proofs.ReaderAgreement
Purpose: Two runs of a reader side by side. The token lists of the two runs hold the same words up
  to a tail of each, and the tails begin with nothing that an expression goes on with. Then both
  runs read the same tree up to the spans and stop at the same word, or both refuse. So neither the
  places of the tokens nor what stands behind an expression have a say in how it is read.
Main exports: Word, Token.word, Closes, Aligned, Alike, Agrees, agrees_expression
-/
import Reckon.Proofs.ReaderSoundness

namespace Reckon

/-! ### Words -/

/-- A token without its place. -/
structure Word where
  kind : TokenKind
  value : Option String
  lexeme : String
deriving DecidableEq, Repr, Inhabited

/-- The word that a token is. -/
def Token.word (t : Token) : Word :=
  ⟨t.kind, t.value, t.lexeme⟩

namespace Grammar

section Words

variable {first second : Token}

theorem kind_eq_of_word (same : first.word = second.word) : first.kind = second.kind :=
  congrArg Word.kind same

/-- What a token is read as is told by its word. -/
theorem literal_eq_of_word (same : first.word = second.word) : literal first = literal second := by
  obtain ⟨kind, value, lexeme, _⟩ := first
  obtain ⟨_, _, _, _⟩ := second
  cases same
  rfl

theorem isLeastMagnitude_eq_of_word (same : first.word = second.word) :
    isLeastMagnitude first = isLeastMagnitude second := by
  obtain ⟨kind, value, lexeme, _⟩ := first
  obtain ⟨_, _, _, _⟩ := second
  cases same
  rfl

end Words

/-! ### Tails -/

/-- Tokens with which no expression goes on: there are none, or the input ends or a semicolon stands
at their head. -/
def Closes (tail : List Token) : Prop :=
  ∀ token ∈ tail.head?, token.kind = .endOfInput ∨ token.kind = .semicolon

theorem closes_nil : Closes [] := by
  intro token member
  cases member

theorem Closes.operator?_eq_none {kind : TokenKind}
    (closing : kind = .endOfInput ∨ kind = .semicolon) (level : Level) :
    level.operator? kind = none := by
  rcases closing with rfl | rfl <;> cases level <;> rfl

/-- No chain goes on into a tail. -/
theorem Closes.joint?_eq_none {tail : List Token} (closes : Closes tail) (level : Level) :
    level.joint? tail = none := by
  cases tail with
  | nil => rfl
  | cons token rest =>
      exact Level.joint?_of_operator?_eq_none
        (Closes.operator?_eq_none (closes token rfl) level) rest

/-- No literal begins with them either. -/
theorem Closes.leaf_eq_error {tail : List Token} (closes : Closes tail) :
    ∃ diagnostic, leaf tail = .error diagnostic := by
  cases tail with
  | nil => exact ⟨_, rfl⟩
  | cons token rest =>
      refine ⟨⟨.unknownExpression token.kind, token.span⟩, ?_⟩
      rcases closes token rfl with kindEq | kindEq <;>
        simp [leaf, literal, kindEq]

/-! ### Operators -/

section Joint

variable {level : Level} {token : Token} {rest behind : List Token}

theorem Level.joint?_single {joint : Joint} (single : level.operator? token.kind = some joint)
    (other : joint ≠ .binary .equality .same) (rest : List Token) :
    level.joint? (token :: rest) = some (joint, rest) := by
  simp [Level.joint?, single]

/-- The word `is` is an operator of its own unless `not` follows it. -/
theorem Level.joint?_same (single : level.operator? token.kind = some (.binary .equality .same))
    (alone : take? .notWord rest = none) :
    level.joint? (token :: rest) = some (.binary .equality .same, rest) := by
  cases rest with
  | nil => simp [Level.joint?, single]
  | cons next rest =>
      have noWord : next.kind ≠ .notWord := by
        intro kindEq
        rw [take?_of_kind kindEq] at alone
        cases alone
      simp [Level.joint?, single, noWord]

/-- The words `is not` are one operator. -/
theorem Level.joint?_notSame {word : Token}
    (single : level.operator? token.kind = some (.binary .equality .same))
    (negated : take? .notWord rest = some (word, behind)) :
    level.joint? (token :: rest) = some (.binary .equality .notSame, behind) := by
  obtain ⟨rfl, kindEq⟩ := take?_eq_some negated
  simp [Level.joint?, single, kindEq]

end Joint

/-! ### Two runs side by side -/

section Tails

variable {firstTail secondTail : List Token}

/-- Two token lists that hold the same `n` words before their tails, with which no expression goes
on. -/
inductive Aligned (firstTail secondTail : List Token) :
    (n : Nat) → List Token → List Token → Prop where
  | tails (first : Closes firstTail) (second : Closes secondTail) :
      Aligned firstTail secondTail 0 firstTail secondTail
  | cons {n : Nat} {first second : Token} {firsts seconds : List Token}
      (same : first.word = second.word) (behind : Aligned firstTail secondTail n firsts seconds) :
      Aligned firstTail secondTail (n + 1) (first :: firsts) (second :: seconds)

/-- What two runs of a reader over aligned lists of `n` words come to: both read the same tree and
take at least one word, or both refuse. If the lists have the same tail, they refuse for the same
reason. -/
inductive Alike (firstTail secondTail : List Token) (n : Nat) :
    Except Diagnostic (Expr × List Token) → Except Diagnostic (Expr × List Token) → Prop where
  | ok {m : Nat} {e e' : Expr} {firsts seconds : List Token}
      (same : e.withoutSpans = e'.withoutSpans)
      (fewer : m < n) (behind : Aligned firstTail secondTail m firsts seconds) :
      Alike firstTail secondTail n (.ok (e, firsts)) (.ok (e', seconds))
  | error {d d' : Diagnostic} (same : firstTail = secondTail → d.complaint = d'.complaint) :
      Alike firstTail secondTail n (.error d) (.error d')

/-- A reader takes the two runs over any aligned lists to the same. -/
def Agrees (firstTail secondTail : List Token) (read : Parse) : Prop :=
  ∀ n firsts seconds, Aligned firstTail secondTail n firsts seconds →
    Alike firstTail secondTail n (read firsts) (read seconds)

/-- Lists of the same words before tails are aligned. -/
theorem Aligned.of_words {firsts seconds : List Token} (first : Closes firstTail)
    (second : Closes secondTail) (sameWords : firsts.map Token.word = seconds.map Token.word) :
    Aligned firstTail secondTail firsts.length (firsts ++ firstTail) (seconds ++ secondTail) := by
  induction firsts generalizing seconds with
  | nil =>
      obtain rfl := List.map_eq_nil_iff.mp sameWords.symm
      exact .tails first second
  | cons token firsts inductionHypothesis =>
      obtain ⟨other, seconds, rfl, same, sameRest⟩ := List.map_eq_cons_iff.mp sameWords.symm
      exact .cons same.symm (inductionHypothesis sameRest.symm)

theorem Aligned.closes {n : Nat} {firsts seconds : List Token}
    (aligned : Aligned firstTail secondTail n firsts seconds) :
    Closes firstTail ∧ Closes secondTail := by
  induction aligned with
  | tails first second => exact ⟨first, second⟩
  | cons _ _ inductionHypothesis => exact inductionHypothesis

/-- Aligned lists have at least as many tokens as words before their tails. -/
theorem Aligned.le_length {n : Nat} {firsts seconds : List Token}
    (aligned : Aligned firstTail secondTail n firsts seconds) :
    n ≤ firsts.length ∧ n ≤ seconds.length := by
  induction aligned with
  | tails _ _ => exact ⟨Nat.zero_le _, Nat.zero_le _⟩
  | cons _ _ inductionHypothesis =>
      exact ⟨Nat.succ_le_succ inductionHypothesis.1, Nat.succ_le_succ inductionHypothesis.2⟩

/-- The bound on the words that are left may be raised. -/
theorem Alike.mono {n larger : Nat} {x y : Except Diagnostic (Expr × List Token)}
    (alike : Alike firstTail secondTail n x y) (le : n ≤ larger) :
    Alike firstTail secondTail larger x y := by
  cases alike with
  | ok same fewer behind => exact .ok same (Nat.lt_of_lt_of_le fewer le) behind
  | error same => exact .error same

/-- The runs are kept side by side by what is done with the tree of each and the tokens behind
it. -/
theorem Alike.bind {n larger : Nat} {x y : Except Diagnostic (Expr × List Token)}
    {f g : Expr × List Token → Except Diagnostic (Expr × List Token)}
    (alike : Alike firstTail secondTail n x y)
    (onward : ∀ {m e e' firsts seconds}, e.withoutSpans = e'.withoutSpans → m < n →
      Aligned firstTail secondTail m firsts seconds →
      Alike firstTail secondTail larger (f (e, firsts)) (g (e', seconds))) :
    Alike firstTail secondTail larger (x >>= f) (y >>= g) := by
  cases alike with
  | ok same fewer behind =>
      rw [ok_bind, ok_bind]
      exact onward same fewer behind
  | error same => exact .error same

/-! ### The heads of the lists -/

/-- Both runs take something alike from the head of their lists, or neither takes anything. -/
def BothTake {α : Type} (firstTail secondTail : List Token) (n : Nat) (same : α → α → Prop)
    (x y : Option (α × List Token)) : Prop :=
  x = none ∧ y = none ∨
    ∃ m a b firsts seconds, same a b ∧ m < n ∧ Aligned firstTail secondTail m firsts seconds ∧
      x = some (a, firsts) ∧ y = some (b, seconds)

/-- Two tokens are the same word. -/
def SameWord (first second : Token) : Prop :=
  first.word = second.word

/-- Where a test of the head sees its word only, and the tails fail it, both runs take a token or
neither does. -/
theorem Aligned.bothTake_of_test {n : Nat} {firsts seconds : List Token}
    (aligned : Aligned firstTail secondTail n firsts seconds) (test : Token → Prop)
    [DecidablePred test] {takes? : List Token → Option (Token × List Token)}
    (nil : takes? [] = none)
    (cons : ∀ token rest, takes? (token :: rest) = if test token then some (token, rest) else none)
    (ofWord : ∀ token other, SameWord token other → (test token ↔ test other))
    (firstFails : ∀ token ∈ firstTail.head?, ¬ test token)
    (secondFails : ∀ token ∈ secondTail.head?, ¬ test token) :
    BothTake firstTail secondTail n SameWord (takes? firsts) (takes? seconds) := by
  have none_of_fails : ∀ tail : List Token, (∀ token ∈ tail.head?, ¬ test token) →
      takes? tail = none := by
    intro tail fails
    cases tail with
    | nil => exact nil
    | cons token rest => rw [cons, if_neg (fails token rfl)]
  cases aligned with
  | tails _ _ => exact .inl ⟨none_of_fails _ firstFails, none_of_fails _ secondFails⟩
  | @cons m first second firsts' seconds' same behind =>
      have testIff := ofWord first second same
      by_cases passes : test first
      · refine .inr ⟨m, first, second, firsts', seconds', same, Nat.lt_succ_self m, behind, ?_, ?_⟩
        · rw [cons, if_pos passes]
        · rw [cons, if_pos (testIff.mp passes)]
      · refine .inl ⟨?_, ?_⟩
        · rw [cons, if_neg passes]
        · rw [cons, if_neg fun other => passes (testIff.mpr other)]

theorem Aligned.bothTake_take? {n : Nat} {firsts seconds : List Token}
    (aligned : Aligned firstTail secondTail n firsts seconds) (kind : TokenKind)
    (firstFails : ∀ token ∈ firstTail.head?, token.kind ≠ kind)
    (secondFails : ∀ token ∈ secondTail.head?, token.kind ≠ kind) :
    BothTake firstTail secondTail n SameWord (take? kind firsts) (take? kind seconds) := by
  apply aligned.bothTake_of_test (fun token => token.kind = kind) rfl
    (fun _ _ => rfl) _ firstFails secondFails
  intro token other same
  rw [kind_eq_of_word same]

/-- Both lists have a token of the kind at their heads, or none has, unless the kind ends an
expression. -/
theorem Aligned.bothTake_inside {n : Nat} {firsts seconds : List Token}
    (aligned : Aligned firstTail secondTail n firsts seconds) (kind : TokenKind)
    (inside : kind ≠ .endOfInput ∧ kind ≠ .semicolon) :
    BothTake firstTail secondTail n SameWord (take? kind firsts) (take? kind seconds) := by
  have fails : ∀ tail, Closes tail → ∀ token ∈ tail.head?, token.kind ≠ kind := by
    rintro tail closes token member rfl
    rcases closes token member with ended | parted
    · exact inside.1 ended
    · exact inside.2 parted
  exact aligned.bothTake_take? kind (fails _ aligned.closes.1) (fails _ aligned.closes.2)

theorem Aligned.bothTake_takeLeast? {n : Nat} {firsts seconds : List Token}
    (aligned : Aligned firstTail secondTail n firsts seconds) :
    BothTake firstTail secondTail n SameWord (takeLeast? firsts) (takeLeast? seconds) := by
  have fails : ∀ tail, Closes tail → ∀ token ∈ tail.head?, ¬ isLeastMagnitude token = true := by
    intro tail closes token member least
    simp only [isLeastMagnitude, Bool.and_eq_true, beq_iff_eq] at least
    rcases closes token member with kindEq | kindEq <;> simp [kindEq] at least
  apply aligned.bothTake_of_test (fun token => isLeastMagnitude token = true) rfl (fun _ _ => rfl) _
    (fails _ aligned.closes.1) (fails _ aligned.closes.2)
  intro token other same
  rw [isLeastMagnitude_eq_of_word same]

/-- The word `not` belongs to the word `is` before it, and no tail begins with it. -/
theorem Aligned.bothTake_joint? {n : Nat} {firsts seconds : List Token} (level : Level)
    (aligned : Aligned firstTail secondTail n firsts seconds) :
    BothTake firstTail secondTail n Eq (level.joint? firsts) (level.joint? seconds) := by
  cases aligned with
  | tails firstCloses secondCloses =>
      exact .inl ⟨firstCloses.joint?_eq_none level, secondCloses.joint?_eq_none level⟩
  | @cons m first second firsts seconds same behind =>
      have kindEq := kind_eq_of_word same
      cases single : level.operator? second.kind with
      | none =>
          exact .inl ⟨Level.joint?_of_operator?_eq_none (kindEq ▸ single) firsts,
            Level.joint?_of_operator?_eq_none single seconds⟩
      | some joint =>
          have fewer := Nat.lt_succ_self m
          by_cases isSame : joint = .binary .equality .same
          · subst isSame
            rcases behind.bothTake_inside .notWord (by decide) with ⟨noneFirst, noneSecond⟩ |
              ⟨m', word, word', firsts', seconds', _, fewer', behind', someFirst, someSecond⟩
            · refine .inr ⟨m, .binary .equality .same, _, firsts, seconds, rfl, fewer, behind, ?_,
                ?_⟩
              · exact Level.joint?_same (kindEq ▸ single) noneFirst
              · exact Level.joint?_same single noneSecond
            · refine .inr ⟨m', .binary .equality .notSame, _, firsts', seconds', rfl,
                Nat.lt_trans fewer' fewer, behind', ?_, ?_⟩
              · exact Level.joint?_notSame (kindEq ▸ single) someFirst
              · exact Level.joint?_notSame single someSecond
          · refine .inr ⟨m, joint, joint, firsts, seconds, rfl, fewer, behind, ?_, ?_⟩
            · exact Level.joint?_single (kindEq ▸ single) isSame firsts
            · exact Level.joint?_single single isSame seconds

/-! ### Literals, groups and signs -/

/-- Literals are read alike. -/
theorem agrees_leaf : Agrees firstTail secondTail leaf := by
  intro n firsts seconds aligned
  cases aligned with
  | tails firstCloses secondCloses =>
      obtain ⟨d, firstRead⟩ := firstCloses.leaf_eq_error
      obtain ⟨d', secondRead⟩ := secondCloses.leaf_eq_error
      rw [firstRead, secondRead]
      apply Alike.error
      rintro rfl
      rw [firstRead] at secondRead
      cases secondRead
      rfl
  | @cons m first second firsts seconds same behind =>
      have literalEq := literal_eq_of_word same
      simp only [leaf, List.head?_cons, Option.getD_some, List.tail_cons, literalEq]
      cases literal second with
      | ok v => exact .ok rfl (Nat.lt_succ_self m) behind
      | error complaint => exact .error fun _ => rfl

section Nested

variable {nested : Option Parse} (nestedAgrees : ∀ read ∈ nested, Agrees firstTail secondTail read)
include nestedAgrees

/-- Groups are read alike, if what is inside is. -/
theorem agrees_primary : Agrees firstTail secondTail (primary nested) := by
  intro n firsts seconds aligned
  rcases aligned.bothTake_inside .leftParen (by decide) with
    ⟨noneFirst, noneSecond⟩ | ⟨m, paren, paren', inside, inside', _, fewer, behind, someFirst,
      someSecond⟩
  · simp only [primary, noneFirst, noneSecond]
    exact agrees_leaf n firsts seconds aligned
  · simp only [primary, someFirst, someSecond]
    cases nested with
    | none => exact .error fun _ => rfl
    | some read =>
        apply (nestedAgrees read rfl m inside inside' behind).bind
        intro m' e e' rest rest' same fewer' behind'
        rcases behind'.bothTake_inside .rightParen (by decide) with
          ⟨noneFirst, noneSecond⟩ | ⟨k, _, _, after, after', _, fewest, closed, someFirst,
            someSecond⟩
        · simp only [noneFirst, noneSecond]
          exact .error fun _ => rfl
        · simp only [someFirst, someSecond]
          exact .ok same (by omega) closed

/-- An operand behind a sign. -/
theorem alike_signed (op : UnaryOp) {n m : Nat} {sign sign' : Token} {firsts seconds : List Token}
    (fewer : m < n) (behind : Aligned firstTail secondTail m firsts seconds) :
    Alike firstTail secondTail n
      (do let (e, rest) ← primary nested firsts; .ok (.unary op sign.span e, rest))
      (do let (e, rest) ← primary nested seconds; .ok (.unary op sign'.span e, rest)) := by
  apply (agrees_primary nestedAgrees m firsts seconds behind).bind
  intro m' e e' rest rest' same fewer' behind'
  refine .ok ?_ (Nat.lt_trans fewer' fewer) behind'
  simp only [Expr.withoutSpans, same]

/-- Signs are read alike. -/
theorem agrees_signed : Agrees firstTail secondTail (signed nested) := by
  intro n firsts seconds aligned
  have plus := aligned.bothTake_inside .plus (by decide)
  have minus := aligned.bothTake_inside .minus (by decide)
  rcases plus with
    ⟨noPlus, noPlus'⟩ | ⟨m, sign, sign', rest, rest', _, fewer, behind, plusFirst, plusSecond⟩
  · rcases minus with
      ⟨noMinus, noMinus'⟩ | ⟨m, sign, sign', rest, rest', _, fewer, behind, minusFirst, minusSecond⟩
    · simp only [signed, noPlus, noPlus', noMinus, noMinus']
      exact agrees_primary nestedAgrees n firsts seconds aligned
    · simp only [signed, noPlus, noPlus', minusFirst, minusSecond]
      rcases behind.bothTake_takeLeast? with
        ⟨noLeast, noLeast'⟩ | ⟨m', _, _, after, after', _, fewer', behind', leastFirst, leastSecond⟩
      · simp only [noLeast, noLeast']
        exact alike_signed nestedAgrees .minus fewer behind
      · simp only [leastFirst, leastSecond]
        exact .ok rfl (Nat.lt_trans fewer' fewer) behind'
  · simp only [signed, plusFirst, plusSecond]
    exact alike_signed nestedAgrees .plus fewer behind

end Nested

/-! ### Chains -/

/-- What is built from trees that are alike is alike. -/
theorem withoutSpans_build (joint : Joint) {left left' right right' : Expr}
    (sameLeft : left.withoutSpans = left'.withoutSpans)
    (sameRight : right.withoutSpans = right'.withoutSpans) :
    (joint.build left right).withoutSpans = (joint.build left' right').withoutSpans := by
  cases joint <;> simp only [Joint.build, Expr.withoutSpans, sameLeft, sameRight]

/-- The rounds of a chain. The runs may have different numbers of rounds left, if both have enough
for the words that are left. -/
theorem alike_chainFrom {level : Level} {operand : Parse}
    (operandAgrees : Agrees firstTail secondTail operand) {rounds rounds' n : Nat}
    {left left' : Expr} {firsts seconds : List Token} (enough : n ≤ rounds) (enough' : n ≤ rounds')
    (same : left.withoutSpans = left'.withoutSpans)
    (aligned : Aligned firstTail secondTail n firsts seconds) :
    Alike firstTail secondTail (n + 1) (chainFrom level operand rounds left firsts)
      (chainFrom level operand rounds' left' seconds) := by
  -- Not on the rounds: of these the two runs may have different numbers.
  induction n using Nat.strong_induction_on generalizing rounds rounds' left left' firsts
    seconds with
  | _ n inductionHypothesis =>
      rcases aligned.bothTake_joint? level with ⟨noneFirst, noneSecond⟩ |
        ⟨m, joint, _, rest, rest', rfl, fewer, behind, someFirst, someSecond⟩
      · rw [chainFrom_of_joint?_eq_none noneFirst, chainFrom_of_joint?_eq_none noneSecond]
        exact .ok same (Nat.lt_succ_self n) aligned
      · obtain ⟨rounds, rfl⟩ := Nat.exists_eq_add_one_of_ne_zero (show rounds ≠ 0 by omega)
        obtain ⟨rounds', rfl⟩ := Nat.exists_eq_add_one_of_ne_zero (show rounds' ≠ 0 by omega)
        simp only [chainFrom, someFirst, someSecond]
        apply (operandAgrees m rest rest' behind).bind
        intro m' right right' after after' sameRight fewer' behind'
        have looped := inductionHypothesis m' (Nat.lt_trans fewer' fewer)
          (show m' ≤ rounds by omega)
          (show m' ≤ rounds' by omega) (withoutSpans_build joint same sameRight) behind'
        exact looped.mono (by omega)

/-- Chains are read alike, if their operands are. -/
theorem agrees_chain {level : Level} {operand : Parse}
    (operandAgrees : Agrees firstTail secondTail operand) :
    Agrees firstTail secondTail (chain level operand) := by
  intro n firsts seconds aligned
  apply (operandAgrees n firsts seconds aligned).bind
  intro m left left' rest rest' same fewer behind
  obtain ⟨enough, enough'⟩ := behind.le_length
  exact (alike_chainFrom operandAgrees enough enough' same behind).mono fewer

/-! ### Conditionals and whole expressions -/

/-- The rounds of a row of conditionals. -/
theorem alike_conditionalsFrom {nested : Option Parse}
    (nestedAgrees : ∀ read ∈ nested, Agrees firstTail secondTail read) {rounds rounds' n : Nat}
    {cond cond' : Expr} {firsts seconds : List Token} (enough : n ≤ rounds) (enough' : n ≤ rounds')
    (same : cond.withoutSpans = cond'.withoutSpans)
    (aligned : Aligned firstTail secondTail n firsts seconds) :
    Alike firstTail secondTail (n + 1) (conditionalsFrom nested rounds cond firsts)
      (conditionalsFrom nested rounds' cond' seconds) := by
  induction n using Nat.strong_induction_on generalizing rounds rounds' cond cond' firsts
    seconds with
  | _ n inductionHypothesis =>
      rcases aligned.bothTake_inside .question (by decide) with ⟨noneFirst, noneSecond⟩ |
        ⟨m, question, question', rest, rest', _, fewer, behind, someFirst, someSecond⟩
      · rw [conditionalsFrom_of_take?_eq_none noneFirst,
          conditionalsFrom_of_take?_eq_none noneSecond]
        exact .ok same (Nat.lt_succ_self n) aligned
      · obtain ⟨rounds, rfl⟩ := Nat.exists_eq_add_one_of_ne_zero (show rounds ≠ 0 by omega)
        obtain ⟨rounds', rfl⟩ := Nat.exists_eq_add_one_of_ne_zero (show rounds' ≠ 0 by omega)
        simp only [conditionalsFrom, someFirst, someSecond]
        cases nested with
        | none => exact .error fun _ => rfl
        | some branch =>
            have branchAgrees := nestedAgrees branch rfl
            apply (branchAgrees m rest rest' behind).bind
            intro m' ifTrue ifTrue' after after' sameTrue fewer' behind'
            rcases behind'.bothTake_inside .colon (by decide) with ⟨noneFirst, noneSecond⟩ |
              ⟨k, colon, colon', other, other', _, fewest, parted, someFirst, someSecond⟩
            · simp only [noneFirst, noneSecond]
              have sameTree : (Expr.guarded cond ifTrue).withoutSpans =
                  (Expr.guarded cond' ifTrue').withoutSpans := by
                simp only [Expr.withoutSpans, same, sameTrue]
              have looped := inductionHypothesis m' (Nat.lt_trans fewer' fewer)
                (show m' ≤ rounds by omega) (show m' ≤ rounds' by omega) sameTree behind'
              exact looped.mono (by omega)
            · simp only [someFirst, someSecond]
              apply (branchAgrees k other other' parted).bind
              intro k' ifFalse ifFalse' last last' sameFalse fewerYet ended
              have sameTree : (Expr.conditional cond ifTrue ifFalse).withoutSpans =
                  (Expr.conditional cond' ifTrue' ifFalse').withoutSpans := by
                simp only [Expr.withoutSpans, same, sameTrue, sameFalse]
              have looped := inductionHypothesis k' (by omega) (show k' ≤ rounds by omega)
                (show k' ≤ rounds' by omega) sameTree ended
              exact looped.mono (by omega)

/-- An expression is read alike if its condition is and everything that nests in it. -/
theorem agrees_outermost {nested : Option Parse}
    (nestedAgrees : ∀ read ∈ nested, Agrees firstTail secondTail read)
    (condAgrees : Agrees firstTail secondTail (chains (signed nested))) :
    Agrees firstTail secondTail (outermost nested) := by
  intro n firsts seconds aligned
  apply (condAgrees n firsts seconds aligned).bind
  intro m cond cond' rest rest' same fewer behind
  obtain ⟨enough, enough'⟩ := behind.le_length
  exact (alike_conditionalsFrom nestedAgrees enough enough' same behind).mono fewer

/-- Expressions are read alike, however deep they may nest. -/
theorem agrees_expression (room : Nat) : Agrees firstTail secondTail (expression room) := by
  have readers := reader_induction (Agrees firstTail secondTail)
    (fun _ => Agrees firstTail secondTail)
    (fun _ => agrees_signed) (fun _ _ => agrees_chain) (fun _ => agrees_outermost) room
  exact readers.1

end Tails

end Grammar

end Reckon
