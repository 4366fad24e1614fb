/-
Module: Reckon.Proofs.ViablePrefix
Purpose: Refusals come at the first token that cannot be accepted. What a reader takes, and what it
  refuses, does not depend on the tokens behind the one it looks at; and what stands before a
  refused token is the beginning of something that is read. There is one lemma a reader for each of
  the two; the loops of chains and of conditionals are followed once, by their rounds.
Main exports: Substitutes, ReadsLocally, RefusedAt, RefusesEarly, Prompt, Round, prompt_series,
  prompt_readers, parseExpression_error_earliest
-/
import Reckon.Proofs.ReaderAgreement
import Reckon.Proofs.Rounds

namespace Reckon.Grammar

/-! ### Heads -/

theorem take?_eq_none_iff {kind : TokenKind} {tokens : List Token} :
    take? kind tokens = none ↔ ∀ token ∈ tokens.head?, token.kind ≠ kind := by
  cases tokens with
  | nil => simp [take?]
  | cons token rest => simp [take?]

theorem take?_eq_none_of_head?_eq {kind : TokenKind} {tokens other : List Token}
    (same : other.head? = tokens.head?) (unlike : take? kind tokens = none) :
    take? kind other = none := by
  rwa [take?_eq_none_iff, same, ← take?_eq_none_iff]

theorem takeLeast?_eq_none_iff {tokens : List Token} :
    takeLeast? tokens = none ↔ ∀ token ∈ tokens.head?, isLeastMagnitude token = false := by
  cases tokens with
  | nil => simp [takeLeast?]
  | cons token rest => simp [takeLeast?]

/-- Whether a chain goes on is told by the first token. -/
theorem Level.joint?_eq_none_iff {level : Level} {tokens : List Token} :
    level.joint? tokens = none ↔ ∀ token ∈ tokens.head?, level.operator? token.kind = none := by
  cases tokens with
  | nil => simp [joint?]
  | cons token rest =>
      simp only [List.head?_cons, Option.mem_some_iff, forall_eq']
      refine ⟨fun noJoint => ?_, fun noOperator => joint?_of_operator?_eq_none noOperator rest⟩
      simp only [joint?] at noJoint
      split at noJoint
      · assumption
      · split at noJoint
        · cases noJoint
        · split at noJoint <;> cases noJoint
      · cases noJoint

/-- An operator that was read is read again before other tokens. Only the word `is` looks at the
token behind it: that must be as before, or not the word `not`. -/
theorem Level.joint?_append {level : Level} {tokens rest : List Token} {joint : Joint}
    (found : level.joint? tokens = some (joint, rest)) :
    ∃ opTokens, opTokens ≠ [] ∧ tokens = opTokens ++ rest ∧
      ∀ other, other.head? = rest.head? ∨ take? .notWord other = none →
        level.joint? (opTokens ++ other) = some (joint, other) := by
  cases tokens with
  | nil => cases found
  | cons token behind =>
      cases operator : level.operator? token.kind with
      | none =>
          rw [joint?_of_operator?_eq_none operator] at found
          cases found
      | some single =>
          by_cases isSame : single = .binary .equality .same
          · subst isSame
            cases negated : take? .notWord behind with
            | none =>
                rw [joint?_same operator negated] at found
                cases found
                refine ⟨[token], List.cons_ne_nil _ _, rfl, ?_⟩
                rintro other (same | alone)
                · exact joint?_same operator (take?_eq_none_of_head?_eq same negated)
                · exact joint?_same operator alone
            | some word =>
                rw [joint?_notSame operator negated] at found
                cases found
                obtain ⟨rfl, isWord⟩ := take?_eq_some negated
                exact ⟨[token, word.1], List.cons_ne_nil _ _, rfl,
                  fun other _ => joint?_notSame operator (take?_of_kind isWord other)⟩
          · rw [joint?_single operator isSame] at found
            cases found
            exact ⟨[token], List.cons_ne_nil _ _, rfl,
              fun other _ => joint?_single operator isSame other⟩

theorem head?_append_eq {rest other : List Token} (same : other.head? = rest.head?)
    (before : List Token) : (before ++ other).head? = (before ++ rest).head? := by
  rw [List.head?_append, List.head?_append, same]

theorem head?_append_of_ne_nil {before : List Token} (nonempty : before ≠ [])
    (rest other : List Token) : (before ++ other).head? = (before ++ rest).head? := by
  rw [List.head?_append_of_ne_nil before nonempty, List.head?_append_of_ne_nil before nonempty]

/-! ### What may stand behind -/

/-- Tokens that may stand in the place of others behind what a reader took: they begin alike, or
they stop it. -/
def Substitutes (rank : Nat) (rest other : List Token) : Prop :=
  other.head? = rest.head? ∨ Stops rank other

namespace Substitutes

variable {rank : Nat} {rest other : List Token}

/-- What may stand behind in a place may stand behind in tighter ones. -/
theorem tighten {higher : Nat} (substitutes : Substitutes rank rest other) (le : rank ≤ higher) :
    Substitutes higher rest other :=
  substitutes.imp_right fun stops => stops.tighten le

/-- Behind more tokens it may stand all the more, as the first token is the same. -/
theorem append (substitutes : Substitutes rank rest other) (more : List Token) :
    Substitutes rank (more ++ rest) (more ++ other) := by
  cases more with
  | nil => exact substitutes
  | cons token more => exact .inl rfl

/-- Where no operator stood, none stands in what is put there. -/
theorem joint?_eq_none {level : Level} (substitutes : Substitutes level.rank rest other)
    (noJoint : level.joint? rest = none) : level.joint? other = none := by
  rcases substitutes with same | stops
  · rwa [Level.joint?_eq_none_iff, same, ← Level.joint?_eq_none_iff]
  · exact stops.joint level (Nat.le_refl _)

theorem question_eq_none (substitutes : Substitutes 0 rest other)
    (noQuestion : take? .question rest = none) : take? .question other = none := by
  rcases substitutes with same | stops
  · exact take?_eq_none_of_head?_eq same noQuestion
  · exact stops.question rfl

theorem colon_eq_none (substitutes : Substitutes 0 rest other)
    (noColon : take? .colon rest = none) : take? .colon other = none := by
  rcases substitutes with same | stops
  · exact take?_eq_none_of_head?_eq same noColon
  · exact stops.colon rfl

end Substitutes

/-! ### Local readers -/

/-- What a reader gives does not depend on what stands behind the tokens it takes. -/
def ReadsLocally (rank : Nat) (read : Parse) : Prop :=
  ∀ tokens e rest, read tokens = .ok (e, rest) →
    ∃ taken, taken ≠ [] ∧ tokens = taken ++ rest ∧
      ∀ other, Substitutes rank rest other → read (taken ++ other) = .ok (e, other)

/-- In a looser place less may stand behind. -/
theorem ReadsLocally.looser {rank higher : Nat} {read : Parse} (reads : ReadsLocally higher read)
    (le : rank ≤ higher) : ReadsLocally rank read := by
  intro tokens e rest found
  obtain ⟨taken, nonempty, parts, again⟩ := reads tokens e rest found
  exact ⟨taken, nonempty, parts, fun other substitutes => again other (substitutes.tighten le)⟩

/-- A literal that can stand wherever an operand is missing. -/
def filler : Token :=
  tokenOf .null

/-- A refusal that is due to the head of `rest`: it does not depend on what stands behind that, and
the tokens before it can be completed to something that is read. If there are none before it, a
literal does that. -/
structure RefusedAt (rank : Nat) (read : Parse) (before rest : List Token)
    (diagnostic : Diagnostic) : Prop where
  again : ∀ other, other.head? = rest.head? → read (before ++ other) = .error diagnostic
  completed : ∃ completion, (before = [] → completion = [filler]) ∧
    ∀ tail, Stops rank tail → ∃ e, read (before ++ (completion ++ tail)) = .ok (e, tail)

/-- A reader that refuses tokens at the first that cannot be accepted. -/
def RefusesEarly (rank : Nat) (read : Parse) : Prop :=
  ∀ tokens diagnostic, read tokens = .error diagnostic →
    ∃ before rest, tokens = before ++ rest ∧ RefusedAt rank read before rest diagnostic

theorem RefusesEarly.looser {rank higher : Nat} {read : Parse} (refuses : RefusesEarly higher read)
    (le : rank ≤ higher) : RefusesEarly rank read := by
  intro tokens diagnostic refused
  obtain ⟨before, rest, parts, again, completion, start, completes⟩ :=
    refuses tokens diagnostic refused
  exact ⟨before, rest, parts, again, completion, start,
    fun tail stops => completes tail (stops.tighten le)⟩

/-- A reader that looks no further than it takes, and refuses tokens at the first that cannot be
accepted. -/
structure Prompt (rank : Nat) (read : Parse) : Prop where
  locally : ReadsLocally rank read
  early : RefusesEarly rank read

theorem Prompt.looser {rank higher : Nat} {read : Parse} (prompt : Prompt higher read)
    (le : rank ≤ higher) : Prompt rank read :=
  ⟨prompt.locally.looser le, prompt.early.looser le⟩

/-- Completed tokens begin as before, or with the literal that was put in. -/
theorem head?_completed {before completion : List Token}
    (start : before = [] → completion = [filler]) (rest tail : List Token) :
    (before ++ (completion ++ tail)).head? = (before ++ rest).head? ∨
      (before ++ (completion ++ tail)).head? = some filler := by
  cases before with
  | nil =>
      rw [start rfl]
      exact .inr rfl
  | cons token before => exact .inl rfl

/-! ### Literals, groups and signs -/

/-- A literal is read locally. -/
theorem readsLocally_leaf : ReadsLocally primaryRank leaf := by
  intro tokens e rest found
  cases tokens with
  | nil => cases found
  | cons token tokens =>
      simp only [leaf, List.head?_cons, Option.getD_some, List.tail_cons] at found
      split at found
      · next v reads =>
          cases found
          refine ⟨[token], List.cons_ne_nil _ _, rfl, ?_⟩
          intro other _
          simp [leaf, reads]
      · cases found

/-- A literal is refused for its first token, which is the only one. -/
theorem leaf_eq_error_of_head?_eq {tokens other : List Token} {diagnostic : Diagnostic}
    (refused : leaf tokens = .error diagnostic) (same : other.head? = tokens.head?) :
    leaf other = .error diagnostic := by
  unfold leaf at refused ⊢
  rw [same]
  dsimp only at refused ⊢
  split at refused
  · cases refused
  · exact refused

section Tight

variable {nested : Option Parse}

theorem primary_of_take?_eq_none {tokens : List Token} (noParen : take? .leftParen tokens = none) :
    primary nested tokens = leaf tokens := by
  rw [primary, noParen]

/-- A group whose inside is read. -/
theorem primary_of_read {read : Parse} {paren close : Token} {inside behind : List Token} {e : Expr}
    (opens : paren.kind = .leftParen) (closes : close.kind = .rightParen)
    (insideRead : read inside = .ok (e, close :: behind)) :
    primary (some read) (paren :: inside) = .ok (e, behind) := by
  simp [primary, take?_of_kind opens, insideRead, take?_of_kind closes]

/-- A group whose inside is refused. -/
theorem primary_of_refused {read : Parse} {paren : Token} {inside : List Token}
    {diagnostic : Diagnostic} (opens : paren.kind = .leftParen)
    (refused : read inside = .error diagnostic) :
    primary (some read) (paren :: inside) = .error diagnostic := by
  simp [primary, take?_of_kind opens, refused]

/-- A group that is not closed behind its inside. -/
theorem primary_of_unclosed {read : Parse} {paren : Token} {inside behind : List Token} {e : Expr}
    (opens : paren.kind = .leftParen) (insideRead : read inside = .ok (e, behind))
    (unclosed : take? .rightParen behind = none) :
    primary (some read) (paren :: inside) =
      .error ⟨.missing .rightParen,
        .point ((behind.head?.map Token.span).getD .endOfInput).stop
          ((behind.head?.map Token.span).getD .endOfInput).line
          ((behind.head?.map Token.span).getD .endOfInput).column⟩ := by
  simp [primary, take?_of_kind opens, insideRead, unclosed]

/-- A group is read locally, as it ends with its parenthesis. -/
theorem readsLocally_primary (nestedLocal : ∀ read ∈ nested, ReadsLocally 0 read) :
    ReadsLocally primaryRank (primary nested) := by
  intro tokens e rest found
  cases opened : take? .leftParen tokens with
  | none =>
      rw [primary_of_take?_eq_none opened] at found
      obtain ⟨taken, nonempty, rfl, again⟩ := readsLocally_leaf tokens e rest found
      refine ⟨taken, nonempty, rfl, ?_⟩
      intro other substitutes
      have noParen : take? .leftParen (taken ++ other) = none :=
        take?_eq_none_of_head?_eq (head?_append_of_ne_nil nonempty rest other) opened
      rw [primary_of_take?_eq_none noParen]
      exact again other substitutes
  | some opening =>
      obtain ⟨paren, inside⟩ := opening
      obtain ⟨rfl, opens⟩ := take?_eq_some opened
      cases nested with
      | none => simp [primary, opened] at found
      | some read =>
          simp only [primary, opened] at found
          obtain ⟨⟨inner, behind⟩, insideRead, closing⟩ := bind_eq_ok.mp found
          obtain ⟨taken, _, rfl, again⟩ := nestedLocal read rfl inside inner behind insideRead
          cases closed : take? .rightParen behind with
          | none => simp [closed] at closing
          | some close =>
              obtain ⟨rfl, closes⟩ := take?_eq_some closed
              simp only [closed] at closing
              cases closing
              refine ⟨paren :: (taken ++ [close.1]), List.cons_ne_nil _ _, by simp, ?_⟩
              intro other _
              rw [List.cons_append, List.append_assoc]
              exact primary_of_read opens closes (again (close.1 :: other) (.inl rfl))

/-- A refusal inside a group is one of the group, which is completed by closing it. -/
theorem RefusedAt.group {read : Parse} {paren : Token} {before rest : List Token}
    {diagnostic : Diagnostic} (inside : RefusedAt 0 read before rest diagnostic)
    (opens : paren.kind = .leftParen) :
    RefusedAt primaryRank (primary (some read)) (paren :: before) rest diagnostic := by
  obtain ⟨again, completion, _, completes⟩ := inside
  have closes : (tokenOf .rightParen).kind = .rightParen := rfl
  refine ⟨?_, completion ++ [tokenOf .rightParen], by simp, ?_⟩
  · intro other same
    exact primary_of_refused opens (again other same)
  · intro tail _
    obtain ⟨e, insideRead⟩ :=
      completes (tokenOf .rightParen :: tail) (stops_of_closing (.inl closes) 0 tail)
    rw [List.append_assoc, List.cons_append]
    exact ⟨e, primary_of_read opens closes insideRead⟩

/-- A group that is not closed is refused for the token where the parenthesis is missing. -/
theorem refusedAt_unclosed {read : Parse} (readLocal : ReadsLocally 0 read) {paren : Token}
    {e : Expr} {inside behind : List Token} {diagnostic : Diagnostic}
    (opens : paren.kind = .leftParen) (insideRead : read inside = .ok (e, behind))
    (unclosed : take? .rightParen behind = none)
    (refused : primary (some read) (paren :: inside) = .error diagnostic) :
    ∃ before, paren :: inside = before ++ behind ∧
      RefusedAt primaryRank (primary (some read)) before behind diagnostic := by
  rw [primary_of_unclosed opens insideRead unclosed] at refused
  obtain ⟨taken, _, rfl, again⟩ := readLocal inside e behind insideRead
  have closes : (tokenOf .rightParen).kind = .rightParen := rfl
  refine ⟨paren :: taken, rfl, ?_, [tokenOf .rightParen], by simp, ?_⟩
  · intro other same
    have stillOpen := take?_eq_none_of_head?_eq same unclosed
    rw [List.cons_append, primary_of_unclosed opens (again other (.inl same)) stillOpen, same]
    exact refused
  · intro tail _
    have stops := stops_of_closing (.inl closes) 0 tail
    exact ⟨e, primary_of_read opens closes (again (tokenOf .rightParen :: tail) (.inr stops))⟩

/-- A group is refused early: for its depth, inside, or at the token that should close it. -/
theorem refusesEarly_primary (nestedLocal : ∀ read ∈ nested, ReadsLocally 0 read)
    (nestedEarly : ∀ read ∈ nested, RefusesEarly 0 read) :
    RefusesEarly primaryRank (primary nested) := by
  intro tokens diagnostic refused
  cases opened : take? .leftParen tokens with
  | none =>
      refine ⟨[], tokens, rfl, ?_, [filler], fun _ => rfl, fun tail _ => ⟨_, rfl⟩⟩
      intro other same
      rw [primary_of_take?_eq_none opened] at refused
      rw [List.nil_append, primary_of_take?_eq_none (take?_eq_none_of_head?_eq same opened)]
      exact leaf_eq_error_of_head?_eq refused same
  | some opening =>
      obtain ⟨paren, inside⟩ := opening
      obtain ⟨rfl, opens⟩ := take?_eq_some opened
      cases nested with
      | none =>
          -- The parenthesis is too deep, and a literal in its place is not.
          refine ⟨[], paren :: inside, rfl, ?_, [filler], fun _ => rfl, fun tail _ => ⟨_, rfl⟩⟩
          intro other same
          obtain ⟨behind, rfl⟩ := List.head?_eq_some_iff.mp same
          simp only [primary, opened] at refused
          simp only [List.nil_append, primary, take?_of_kind opens, refused]
      | some read =>
          cases insideRead : read inside with
          | error complaint =>
              rw [primary_of_refused opens insideRead] at refused
              cases refused
              obtain ⟨before, rest, rfl, refusedAt⟩ :=
                nestedEarly read rfl inside diagnostic insideRead
              exact ⟨paren :: before, rest, rfl, refusedAt.group opens⟩
          | ok result =>
              obtain ⟨e, behind⟩ := result
              cases closed : take? .rightParen behind with
              | none =>
                  obtain ⟨before, parts, refusedAt⟩ :=
                    refusedAt_unclosed (nestedLocal read rfl) opens insideRead closed refused
                  exact ⟨before, behind, parts, refusedAt⟩
              | some close =>
                  obtain ⟨rfl, closes⟩ := take?_eq_some closed
                  rw [primary_of_read opens closes insideRead] at refused
                  cases refused

/-- What a sign does with the operand behind it, if the first token of that is plain. Behind a plus
sign every token is, and behind a minus sign every one but the magnitude of the least integer. -/
structure Signs (nested : Option Parse) (op : UnaryOp) (sign : Token) (plain : Token → Prop) :
    Prop where
  filler : plain filler
  signed : ∀ tokens, (∀ token ∈ tokens.head?, plain token) →
    Grammar.signed nested (sign :: tokens) =
      (do let (e, rest) ← primary nested tokens; .ok (.unary op sign.span e, rest))

theorem signs_plus {sign : Token} (plus : sign.kind = .plus) :
    Signs nested .plus sign (fun _ => True) where
  filler := trivial
  signed tokens _ := by simp [Grammar.signed, take?_of_kind plus]

theorem signs_minus {sign : Token} (minus : sign.kind = .minus) :
    Signs nested .minus sign (fun token => isLeastMagnitude token = false) where
  filler := by decide
  signed tokens plain := by
    have noPlus : sign.kind ≠ .plus := by simp [minus]
    simp [Grammar.signed, take?_of_kind_ne noPlus, take?_of_kind minus,
      takeLeast?_eq_none_iff.mpr plain]

section Sign

variable {op : UnaryOp} {sign : Token} {plain : Token → Prop}

/-- A sign and its operand are read locally. -/
theorem Signs.readsLocally (signs : Signs nested op sign plain)
    (primaryLocal : ReadsLocally primaryRank (primary nested)) {tokens rest : List Token} {e : Expr}
    (plainHead : ∀ token ∈ tokens.head?, plain token)
    (found : Grammar.signed nested (sign :: tokens) = .ok (e, rest)) :
    ∃ taken, taken ≠ [] ∧ sign :: tokens = taken ++ rest ∧
      ∀ other, Substitutes signRank rest other →
        Grammar.signed nested (taken ++ other) = .ok (e, other) := by
  rw [signs.signed tokens plainHead] at found
  obtain ⟨⟨operand, behind⟩, operandRead, built⟩ := bind_eq_ok.mp found
  cases built
  obtain ⟨taken, nonempty, rfl, again⟩ := primaryLocal tokens operand rest operandRead
  refine ⟨sign :: taken, List.cons_ne_nil _ _, rfl, ?_⟩
  intro other substitutes
  rw [head?_append_of_ne_nil nonempty other rest] at plainHead
  rw [List.cons_append, signs.signed _ plainHead, again other (substitutes.tighten (by decide)),
    ok_bind]

/-- Behind a sign, the operand is refused early. -/
theorem Signs.refusesEarly (signs : Signs nested op sign plain)
    (primaryEarly : RefusesEarly primaryRank (primary nested)) {tokens : List Token}
    {diagnostic : Diagnostic} (plainHead : ∀ token ∈ tokens.head?, plain token)
    (refused : Grammar.signed nested (sign :: tokens) = .error diagnostic) :
    ∃ before rest, sign :: tokens = before ++ rest ∧
      RefusedAt signRank (Grammar.signed nested) before rest diagnostic := by
  rw [signs.signed tokens plainHead] at refused
  rcases bind_eq_error.mp refused with operandRefused | ⟨_, _, built⟩
  · obtain ⟨before, rest, rfl, again, completion, start, completes⟩ :=
      primaryEarly tokens _ operandRefused
    refine ⟨sign :: before, rest, rfl, ?_, completion, by simp, ?_⟩
    · intro other same
      rw [← head?_append_eq same before] at plainHead
      rw [List.cons_append, signs.signed _ plainHead, again other same, error_bind]
    · intro tail stops
      have plainCompleted : ∀ token ∈ (before ++ (completion ++ tail)).head?, plain token := by
        rcases head?_completed start rest tail with same | filled
        · rwa [same]
        · rw [filled]
          simpa using signs.filler
      obtain ⟨e, operandRead⟩ := completes tail (stops.tighten (by decide))
      rw [List.cons_append, signs.signed _ plainCompleted, operandRead, ok_bind]
      exact ⟨_, rfl⟩
  · cases built

end Sign

theorem signed_of_take?_eq_none {tokens : List Token} (noPlus : take? .plus tokens = none)
    (noMinus : take? .minus tokens = none) : signed nested tokens = primary nested tokens := by
  rw [signed, noPlus, noMinus]

theorem readsLocally_signed (primaryLocal : ReadsLocally primaryRank (primary nested)) :
    ReadsLocally signRank (signed nested) := by
  intro tokens e rest found
  cases plus : take? .plus tokens with
  | some signing =>
      obtain ⟨rfl, kindEq⟩ := take?_eq_some plus
      exact (signs_plus kindEq).readsLocally primaryLocal (fun _ _ => trivial) found
  | none =>
      cases minus : take? .minus tokens with
      | some signing =>
          obtain ⟨sign, behind⟩ := signing
          obtain ⟨rfl, kindEq⟩ := take?_eq_some minus
          cases least : takeLeast? behind with
          | none =>
              exact (signs_minus kindEq).readsLocally primaryLocal
                (takeLeast?_eq_none_iff.mp least) found
          | some number =>
              obtain ⟨rfl, magnitude⟩ := takeLeast?_eq_some least
              simp only [signed, plus, minus, least] at found
              cases found
              refine ⟨[sign, number.1], List.cons_ne_nil _ _, rfl, ?_⟩
              intro other _
              have noPlus : sign.kind ≠ .plus := by simp [kindEq]
              simp [signed, take?_of_kind_ne noPlus, take?_of_kind kindEq, takeLeast?, magnitude]
      | none =>
          rw [signed_of_take?_eq_none plus minus] at found
          obtain ⟨taken, nonempty, rfl, again⟩ := primaryLocal tokens e rest found
          refine ⟨taken, nonempty, rfl, ?_⟩
          intro other substitutes
          have same := head?_append_of_ne_nil nonempty rest other
          rw [signed_of_take?_eq_none (take?_eq_none_of_head?_eq same plus)
            (take?_eq_none_of_head?_eq same minus)]
          exact again other (substitutes.tighten (by decide))

theorem refusesEarly_signed (primaryEarly : RefusesEarly primaryRank (primary nested)) :
    RefusesEarly signRank (signed nested) := by
  intro tokens diagnostic refused
  cases plus : take? .plus tokens with
  | some signing =>
      obtain ⟨rfl, kindEq⟩ := take?_eq_some plus
      exact (signs_plus kindEq).refusesEarly primaryEarly (fun _ _ => trivial) refused
  | none =>
      cases minus : take? .minus tokens with
      | some signing =>
          obtain ⟨sign, behind⟩ := signing
          obtain ⟨rfl, kindEq⟩ := take?_eq_some minus
          cases least : takeLeast? behind with
          | none =>
              exact (signs_minus kindEq).refusesEarly primaryEarly
                (takeLeast?_eq_none_iff.mp least) refused
          | some number => simp [signed, plus, minus, least] at refused
      | none =>
          rw [signed_of_take?_eq_none plus minus] at refused
          obtain ⟨before, rest, rfl, again, completion, start, completes⟩ :=
            primaryEarly tokens diagnostic refused
          refine ⟨before, rest, rfl, ?_, completion, start, ?_⟩
          · intro other same
            have sameHead := head?_append_eq same before
            rw [signed_of_take?_eq_none (take?_eq_none_of_head?_eq sameHead plus)
              (take?_eq_none_of_head?_eq sameHead minus)]
            exact again other same
          · intro tail stops
            have unsigned : signed nested (before ++ (completion ++ tail)) =
                primary nested (before ++ (completion ++ tail)) := by
              rcases head?_completed start rest tail with same | filled
              · exact signed_of_take?_eq_none (take?_eq_none_of_head?_eq same plus)
                  (take?_eq_none_of_head?_eq same minus)
              · obtain ⟨behind, tokensEq⟩ := List.head?_eq_some_iff.mp filled
                rw [tokensEq]
                exact signed_of_kind_ne (by decide) (by decide)
            rw [unsigned]
            exact completes tail (stops.tighten (by decide))

/-- Operands are read promptly, with a sign or without one. -/
theorem prompt_signed (nestedPrompt : ∀ read ∈ nested, Prompt 0 read) :
    Prompt signRank (signed nested) := by
  have nestedLocal := fun read member => (nestedPrompt read member).locally
  have nestedEarly := fun read member => (nestedPrompt read member).early
  exact ⟨readsLocally_signed (readsLocally_primary nestedLocal),
    refusesEarly_signed (refusesEarly_primary nestedLocal nestedEarly)⟩

end Tight

/-! ### Rounds behind a tree -/

/-- What a round must do for the whole to read locally and to refuse early. If it is refused for its
first token, there is no need to complete it, as the series may end there. -/
structure Round (rank : Nat) (round : ReadRound) : Prop where
  nothing : ∀ left, round left [] = none
  unbegun : ∀ left tokens other, round left tokens = none → Substitutes rank tokens other →
    round left other = none
  locally : ∀ left tokens e rest, round left tokens = some (.ok (e, rest)) →
    ∃ taken, taken ≠ [] ∧ tokens = taken ++ rest ∧
      ∀ other, Substitutes rank rest other → round left (taken ++ other) = some (.ok (e, other))
  early : ∀ left tokens diagnostic, round left tokens = some (.error diagnostic) →
    ∃ before rest, tokens = before ++ rest ∧
      (∀ other, other.head? = rest.head? →
        round left (before ++ other) = some (.error diagnostic)) ∧
      (before ≠ [] → ∃ completion, ∀ tail, Stops rank tail →
        ∃ e, round left (before ++ (completion ++ tail)) = some (.ok (e, tail)))

section Rounds

variable {rank : Nat} {round : ReadRound} {left e : Expr} {tokens rest : List Token}

/-- At tokens that stop the reader no round begins. -/
theorem Round.none_of_stops (isRound : Round rank round) (stops : Stops rank tokens) :
    round left tokens = none :=
  isRound.unbegun left [] tokens (isRound.nothing left) (.inr stops)

theorem Round.length_pos (isRound : Round rank round)
    {result : Except Diagnostic (Expr × List Token)} (begun : round left tokens = some result) :
    0 < tokens.length := by
  apply List.length_pos_iff.mpr
  rintro rfl
  rw [isRound.nothing left] at begun
  cases begun

/-- What some rounds give does not depend on what stands behind them. -/
theorem Round.repeated_locally (isRound : Round rank round) {rounds : Nat}
    (enough : tokens.length ≤ rounds) (found : repeated round rounds left tokens = .ok (e, rest)) :
    ∃ more, tokens = more ++ rest ∧
      ∀ rounds other, (more ++ other).length ≤ rounds → Substitutes rank rest other →
        repeated round rounds left (more ++ other) = .ok (e, other) := by
  induction rounds generalizing left tokens with
  | zero =>
      obtain rfl := List.length_eq_zero_iff.mp (Nat.le_zero.mp enough)
      cases found
      refine ⟨[], rfl, ?_⟩
      intro rounds other _ substitutes
      exact repeated_of_none (isRound.unbegun _ [] other (isRound.nothing _) substitutes) rounds
  | succ rounds inductionHypothesis =>
      cases begun : round left tokens with
      | none =>
          rw [repeated_of_none begun] at found
          cases found
          refine ⟨[], rfl, ?_⟩
          intro rounds other _ substitutes
          exact repeated_of_none (isRound.unbegun _ _ other begun substitutes) rounds
      | some result =>
          cases result with
          | error diagnostic =>
              rw [repeated_of_error begun (Nat.succ_ne_zero rounds)] at found
              cases found
          | ok read =>
              obtain ⟨next, behind⟩ := read
              rw [repeated_of_ok begun] at found
              obtain ⟨taken, nonempty, rfl, again⟩ := isRound.locally left tokens next behind begun
              have progress := List.length_pos_iff.mpr nonempty
              rw [List.length_append] at enough
              obtain ⟨more, rfl, loopAgain⟩ := inductionHypothesis (by omega) found
              refine ⟨taken ++ more, (List.append_assoc taken more rest).symm, ?_⟩
              intro rounds other enough substitutes
              rw [List.append_assoc] at enough ⊢
              obtain ⟨fewer, fits, roundEq⟩ :=
                exists_repeated_eq nonempty (again (more ++ other) (substitutes.append more)) enough
              rw [roundEq]
              exact loopAgain fewer other fits substitutes

/-- A refusal in the rounds behind a tree, due to the head of what is behind `before`. What is put
in its place begins like the tokens themselves, or it ends the series before another round has
begun. -/
def RefusedInRounds (rank : Nat) (round : ReadRound) (left : Expr) (tokens : List Token)
    (diagnostic : Diagnostic) : Prop :=
  ∃ before rest completion, tokens = before ++ rest ∧
    (∀ rounds other, (before ++ other).length ≤ rounds → other.head? = rest.head? →
      repeated round rounds left (before ++ other) = .error diagnostic) ∧
    ∀ tail, Stops rank tail → Substitutes rank tokens (before ++ (completion ++ tail)) ∧
      ∀ rounds, (before ++ (completion ++ tail)).length ≤ rounds →
        ∃ e, repeated round rounds left (before ++ (completion ++ tail)) = .ok (e, tail)

/-- If the first round is refused, the series is refused early. -/
theorem Round.refusedInRounds_first (isRound : Round rank round) {diagnostic : Diagnostic}
    (refused : round left tokens = some (.error diagnostic)) :
    RefusedInRounds rank round left tokens diagnostic := by
  obtain ⟨before, rest, rfl, again, completes⟩ := isRound.early left tokens diagnostic refused
  have refusedAgain : ∀ rounds other, (before ++ other).length ≤ rounds → other.head? = rest.head? →
      repeated round rounds left (before ++ other) = .error diagnostic := by
    intro rounds other enough same
    have progress := isRound.length_pos (again other same)
    exact repeated_of_error (again other same) (by omega)
  by_cases atFirst : before = []
  · -- The round is refused for its first token, and without it the series ends.
    subst atFirst
    refine ⟨[], rest, [], rfl, refusedAgain, ?_⟩
    intro tail stops
    exact ⟨.inr stops, fun rounds _ =>
      ⟨left, repeated_of_none (isRound.none_of_stops stops) rounds⟩⟩
  · obtain ⟨completion, completes⟩ := completes atFirst
    refine ⟨before, rest, completion, rfl, refusedAgain, ?_⟩
    intro tail stops
    refine ⟨.inl (head?_append_of_ne_nil atFirst rest _), ?_⟩
    intro rounds enough
    obtain ⟨e, read⟩ := completes tail stops
    have progress := isRound.length_pos read
    obtain ⟨rounds, rfl⟩ := Nat.exists_eq_succ_of_ne_zero (show rounds ≠ 0 by omega)
    rw [repeated_of_ok read]
    exact ⟨e, repeated_of_none (isRound.none_of_stops stops) rounds⟩

/-- If a later round is refused early, so is the series. -/
theorem Round.refusedInRounds_later (isRound : Round rank round) {next : Expr} {behind : List Token}
    {diagnostic : Diagnostic} (read : round left tokens = some (.ok (next, behind)))
    (later : RefusedInRounds rank round next behind diagnostic) :
    RefusedInRounds rank round left tokens diagnostic := by
  obtain ⟨taken, nonempty, rfl, again⟩ := isRound.locally left tokens next behind read
  obtain ⟨before, rest, completion, rfl, loopAgain, completes⟩ := later
  refine ⟨taken ++ before, rest, completion, (List.append_assoc taken before rest).symm, ?_, ?_⟩
  · intro rounds other enough same
    rw [List.append_assoc] at enough ⊢
    have begins : Substitutes rank (before ++ rest) (before ++ other) :=
      .inl (head?_append_eq same before)
    obtain ⟨fewer, fits, roundEq⟩ :=
      exists_repeated_eq nonempty (again (before ++ other) begins) enough
    rw [roundEq]
    exact loopAgain fewer other fits same
  · intro tail stops
    obtain ⟨begins, completes⟩ := completes tail stops
    rw [List.append_assoc]
    refine ⟨begins.append taken, ?_⟩
    intro rounds enough
    obtain ⟨fewer, fits, roundEq⟩ := exists_repeated_eq nonempty (again _ begins) enough
    rw [roundEq]
    exact completes fewer fits

/-- A series of rounds is refused early, whichever of them is refused. -/
theorem Round.repeated_early (isRound : Round rank round) {rounds : Nat} {diagnostic : Diagnostic}
    (refused : repeated round rounds left tokens = .error diagnostic) :
    RefusedInRounds rank round left tokens diagnostic := by
  induction rounds generalizing left tokens with
  | zero => cases refused
  | succ rounds inductionHypothesis =>
      cases begun : round left tokens with
      | none =>
          rw [repeated_of_none begun] at refused
          cases refused
      | some result =>
          cases result with
          | error complaint =>
              rw [repeated_of_error begun (Nat.succ_ne_zero rounds)] at refused
              cases refused
              exact isRound.refusedInRounds_first begun
          | ok read =>
              rw [repeated_of_ok begun] at refused
              exact isRound.refusedInRounds_later begun (inductionHypothesis refused)

/-- A series is read locally if its first part is and its rounds are. -/
theorem readsLocally_series {first : Parse} (firstLocal : ReadsLocally rank first)
    (isRound : Round rank round) : ReadsLocally rank (series first round) := by
  intro tokens e rest found
  obtain ⟨⟨left, behind⟩, firstRead, continued⟩ := bind_eq_ok.mp found
  obtain ⟨taken, nonempty, rfl, again⟩ := firstLocal tokens left behind firstRead
  obtain ⟨more, rfl, loopAgain⟩ := isRound.repeated_locally (Nat.le_refl _) continued
  refine ⟨taken ++ more, List.append_ne_nil_of_left_ne_nil nonempty more, by simp, ?_⟩
  intro other substitutes
  have firstAgain := again (more ++ other) (substitutes.append more)
  rw [List.append_assoc, series, firstAgain, ok_bind]
  exact loopAgain _ other (Nat.le_refl _) substitutes

/-- A series is refused early if its first part is and its rounds are. -/
theorem refusesEarly_series {first : Parse} (firstLocal : ReadsLocally rank first)
    (firstEarly : RefusesEarly rank first) (isRound : Round rank round) :
    RefusesEarly rank (series first round) := by
  intro tokens diagnostic refused
  rcases bind_eq_error.mp refused with firstRefused | ⟨⟨left, behind⟩, firstRead, continued⟩
  · obtain ⟨before, rest, rfl, again, completion, start, completes⟩ :=
      firstEarly tokens diagnostic firstRefused
    refine ⟨before, rest, rfl, ?_, completion, start, ?_⟩
    · intro other same
      rw [series, again other same, error_bind]
    · intro tail stops
      obtain ⟨e, firstRead⟩ := completes tail stops
      rw [series, firstRead, ok_bind]
      exact ⟨e, repeated_of_none (isRound.none_of_stops stops) _⟩
  · obtain ⟨taken, nonempty, rfl, again⟩ := firstLocal tokens left behind firstRead
    obtain ⟨before, rest, completion, rfl, loopAgain, completes⟩ := isRound.repeated_early continued
    refine ⟨taken ++ before, rest, by simp, ?_, completion, by simp [nonempty], ?_⟩
    · intro other same
      have firstAgain := again (before ++ other) (.inl (head?_append_eq same before))
      rw [List.append_assoc, series, firstAgain, ok_bind]
      exact loopAgain _ other (Nat.le_refl _) same
    · intro tail stops
      obtain ⟨substitutes, completes⟩ := completes tail stops
      rw [List.append_assoc, series, again _ substitutes, ok_bind]
      exact completes _ (Nat.le_refl _)

/-- A series of rounds behind a prompt reader is prompt. -/
theorem prompt_series {first : Parse} (firstPrompt : Prompt rank first)
    (isRound : Round rank round) : Prompt rank (series first round) :=
  ⟨readsLocally_series firstPrompt.locally isRound,
    refusesEarly_series firstPrompt.locally firstPrompt.early isRound⟩

end Rounds

/-! ### Chains -/

section Chains

variable {level : Level} {operand : Parse}

/-- The rounds of a chain: an operator and an operand. -/
theorem round_chainRound (operandPrompt : Prompt level.rank operand) :
    Round level.rank (chainRound level operand) where
  nothing left := rfl
  unbegun left tokens other unbegun substitutes := by
    rw [chainRound, Option.map_eq_none_iff] at unbegun ⊢
    exact substitutes.joint?_eq_none unbegun
  locally left tokens e rest found := by
    obtain ⟨⟨joint, behind⟩, head, read⟩ := Option.map_eq_some_iff.mp found
    obtain ⟨opTokens, opNonempty, rfl, opAgain⟩ := Level.joint?_append head
    obtain ⟨⟨right, after⟩, rightRead, built⟩ := bind_eq_ok.mp read
    cases built
    obtain ⟨taken, nonempty, rfl, again⟩ := operandPrompt.locally behind right rest rightRead
    refine ⟨opTokens ++ taken, List.append_ne_nil_of_left_ne_nil opNonempty taken, by simp, ?_⟩
    intro other substitutes
    have opRead := opAgain (taken ++ other) (.inl (head?_append_of_ne_nil nonempty rest other))
    simp [chainRound, opRead, again other substitutes]
  early left tokens diagnostic refused := by
    obtain ⟨⟨joint, behind⟩, head, read⟩ := Option.map_eq_some_iff.mp refused
    obtain ⟨opTokens, opNonempty, rfl, opAgain⟩ := Level.joint?_append head
    rcases bind_eq_error.mp read with rightRefused | ⟨_, _, built⟩
    · obtain ⟨before, rest, rfl, again, completion, start, completes⟩ :=
        operandPrompt.early behind _ rightRefused
      refine ⟨opTokens ++ before, rest, by simp, ?_, fun _ => ⟨completion, ?_⟩⟩
      · intro other same
        have opRead := opAgain (before ++ other) (.inl (head?_append_eq same before))
        simp [chainRound, opRead, again other same]
      · intro tail stops
        obtain ⟨e, rightRead⟩ := completes tail stops
        -- The word `is` stays alone, as no operand begins with `not`.
        have opRead := opAgain (before ++ (completion ++ tail)) <| by
          rcases head?_completed start rest tail with same | filled
          · exact .inl same
          · refine .inr (take?_eq_none_iff.mpr ?_)
            rw [filled]
            simp [filler, tokenOf]
        exact ⟨joint.build left e, by simp [chainRound, opRead, rightRead]⟩
    · cases built

end Chains

/-- What passes through the levels: the chains of prompt operands are read promptly. -/
theorem prompt_chain {level : Level} {operand : Parse}
    (operandPrompt : Prompt (level.rank + 1) operand) :
    Prompt level.rank (chain level operand) := by
  have loose := operandPrompt.looser (Nat.le_succ level.rank)
  rw [chain_eq_series]
  exact prompt_series loose (round_chainRound loose)

/-! ### Conditionals and whole expressions -/

/-- The rounds of conditionals: a question mark and a branch, and if a colon follows, another
branch. -/
theorem round_conditionalRound {nested : Option Parse}
    (nestedPrompt : ∀ read ∈ nested, Prompt 0 read) :
    Round 0 (conditionalRound nested) where
  nothing cond := ConditionalRound.eq (.unasked rfl)
  unbegun cond tokens other unbegun substitutes := by
    cases conditionalRound_eq_iff.mp unbegun with
    | unasked unasked => exact ConditionalRound.eq (.unasked (substitutes.question_eq_none unasked))
  locally cond tokens e rest found := by
    cases conditionalRound_eq_iff.mp found with
    | @guarded branch question inside _ ifTrue asks trueRead unparted =>
        obtain ⟨taken, _, rfl, again⟩ :=
          (nestedPrompt branch rfl).locally inside ifTrue rest trueRead
        refine ⟨question :: taken, List.cons_ne_nil _ _, rfl, ?_⟩
        intro other substitutes
        exact ConditionalRound.eq
          (.guarded asks (again other substitutes) (substitutes.colon_eq_none unparted))
    | @conditional branch question colon inside behind _ ifTrue ifFalse asks parts trueRead
      falseRead =>
        obtain ⟨taken, _, rfl, again⟩ :=
          (nestedPrompt branch rfl).locally inside ifTrue (colon :: behind) trueRead
        obtain ⟨takenFalse, _, rfl, againFalse⟩ :=
          (nestedPrompt branch rfl).locally behind ifFalse rest falseRead
        refine ⟨question :: (taken ++ colon :: takenFalse), List.cons_ne_nil _ _, by simp, ?_⟩
        intro other substitutes
        rw [List.cons_append, List.append_assoc, List.cons_append]
        exact ConditionalRound.eq
          (.conditional asks parts (again (colon :: (takenFalse ++ other)) (.inl rfl))
            (againFalse other substitutes))
  early cond tokens diagnostic refused := by
    cases conditionalRound_eq_iff.mp refused with
    | @deep question behind asks =>
        -- The question mark itself is too deep, and without it there is no round.
        refine ⟨[], question :: behind, rfl, ?_, fun nonempty => absurd rfl nonempty⟩
        intro other same
        obtain ⟨behind, rfl⟩ := List.head?_eq_some_iff.mp same
        exact ConditionalRound.eq (.deep asks)
    | @refusedTrue branch question inside _ asks trueRefused =>
        obtain ⟨before, rest, rfl, again, completion, _, completes⟩ :=
          (nestedPrompt branch rfl).early inside diagnostic trueRefused
        refine ⟨question :: before, rest, rfl, ?_, fun _ => ⟨completion, ?_⟩⟩
        · intro other same
          exact ConditionalRound.eq (.refusedTrue asks (again other same))
        · intro tail stops
          obtain ⟨ifTrue, trueRead⟩ := completes tail stops
          exact ⟨_, ConditionalRound.eq (.guarded asks trueRead (stops.colon rfl))⟩
    | @refusedFalse branch question colon inside behind ifTrue _ asks parts trueRead falseRefused =>
        obtain ⟨taken, _, rfl, againTrue⟩ :=
          (nestedPrompt branch rfl).locally inside ifTrue (colon :: behind) trueRead
        obtain ⟨before, rest, rfl, again, completion, _, completes⟩ :=
          (nestedPrompt branch rfl).early behind diagnostic falseRefused
        refine ⟨question :: (taken ++ colon :: before), rest, by simp, ?_,
          fun _ => ⟨completion, ?_⟩⟩
        · intro other same
          rw [List.cons_append, List.append_assoc, List.cons_append]
          exact ConditionalRound.eq
            (.refusedFalse asks parts (againTrue (colon :: (before ++ other)) (.inl rfl))
              (again other same))
        · intro tail stops
          obtain ⟨ifFalse, falseRead⟩ := completes tail stops
          rw [List.cons_append, List.append_assoc, List.cons_append]
          exact ⟨_, ConditionalRound.eq
            (.conditional asks parts (againTrue _ (.inl rfl)) falseRead)⟩

/-- Expressions are read promptly, if their conditions and branches are. -/
theorem prompt_outermost {nested : Option Parse} (nestedPrompt : ∀ read ∈ nested, Prompt 0 read)
    (condPrompt : Prompt Level.coalesce.rank (chains (signed nested))) :
    Prompt 0 (outermost nested) := by
  rw [outermost_eq_series]
  exact prompt_series (condPrompt.looser (Nat.zero_le _)) (round_conditionalRound nestedPrompt)

/-- The readers of expressions and of chains are prompt, however deep expressions may nest. -/
theorem prompt_readers (room : Nat) :
    Prompt 0 (expression room) ∧ ∀ rank, 0 < rank → rank ≤ signRank →
      Prompt rank (reader room rank) :=
  reader_induction (Prompt 0) Prompt (fun _ => prompt_signed) (fun _ _ => prompt_chain)
    (fun _ => prompt_outermost) room

/-! ### The earliest token -/

theorem parseExpression_of_error {tokens : List Token} {diagnostic : Diagnostic}
    (refused : expression nestingLimit tokens = .error diagnostic) :
    parseExpression tokens = .error diagnostic := by
  rw [parseExpression, refused]
  rfl

theorem expression_of_parseExpression_error {tokens : List Token} {diagnostic : Diagnostic}
    (refused : parseExpression tokens = .error diagnostic) :
    expression nestingLimit tokens = .error diagnostic := by
  unfold parseExpression at refused
  cases result : expression nestingLimit tokens with
  | error complaint =>
      rw [result] at refused
      cases refused
      rfl
  | ok read =>
      rw [result] at refused
      cases refused

/-- No token before a refused one is the end of the input, since it is the beginning of something
that is read. -/
theorem RefusedAt.ne_endOfInput {room : Nat} {before rest : List Token} {diagnostic : Diagnostic}
    (refused : RefusedAt 0 (expression room) before rest diagnostic) :
    ∀ token ∈ before, token.kind ≠ .endOfInput := by
  obtain ⟨completion, _, completes⟩ := refused.completed
  obtain ⟨e, read⟩ := completes [.endOfInput] (stops_of_closing (.inr rfl) 0 [])
  obtain ⟨taken, parts, derives⟩ := (readsWhole_expression room).sound _ e _ read
  rw [← List.append_assoc] at parts
  obtain rfl := List.append_cancel_right parts
  intro token member
  exact derives.ne_endOfInput token (List.mem_append_left completion member)

/-- Tokens that end with the end of the input are refused at one of them: any tokens that agree up
to and including it are refused alike, and some that agree up to it are read, to the end of the
input. -/
theorem parseExpression_error_earliest {tokens : List Token} {last : Token}
    {diagnostic : Diagnostic} (ends : tokens.getLast? = some last) (isEnd : last.kind = .endOfInput)
    (refused : parseExpression tokens = .error diagnostic) :
    ∃ k < tokens.length,
      (∀ other : List Token, other.take (k + 1) = tokens.take (k + 1) →
        parseExpression other = .error diagnostic) ∧
      ∃ (other : List Token) (e : Expr), other.take k = tokens.take k ∧
        other.getLast? = some .endOfInput ∧ parseExpression other = .ok e := by
  obtain ⟨before, rest, rfl, refusedAt⟩ :=
    (prompt_readers nestingLimit).1.early tokens diagnostic
      (expression_of_parseExpression_error refused)
  -- The refused token is one of them, because the end of the input is never taken.
  have inside : rest ≠ [] := by
    rintro rfl
    rw [List.append_nil] at ends
    exact refusedAt.ne_endOfInput last (List.mem_of_getLast? ends) isEnd
  obtain ⟨head, behind, rfl⟩ := List.exists_cons_of_ne_nil inside
  refine ⟨before.length, by simp, ?_, ?_⟩
  · intro other agrees
    have otherEq : other = before ++ head :: other.drop (before.length + 1) := by
      have parts := List.take_append_drop (before.length + 1) other
      rw [agrees, List.take_length_add_append] at parts
      simpa using parts.symm
    rw [otherEq]
    exact parseExpression_of_error (refusedAt.again _ rfl)
  · obtain ⟨completion, _, completes⟩ := refusedAt.completed
    obtain ⟨e, read⟩ := completes [.endOfInput] (stops_of_closing (.inr rfl) 0 [])
    refine ⟨before ++ (completion ++ [.endOfInput]), e, by simp, by simp, ?_⟩
    rw [parseExpression, read]
    rfl

/-- In `2 * (1 is not) ? 3` the parenthesis behind `not` is refused. -/
theorem parseExpression_error_earliest_closedOperator :
    let tokens := (scan "2 * (1 is not) ? 3").tokens
    let diagnostic : Diagnostic := ⟨.unknownExpression .rightParen, ⟨13, 13, 1, 14⟩⟩
    tokens.getLast? = some .endOfInput ∧ parseExpression tokens = .error diagnostic ∧
      ∃ k < tokens.length,
        (∀ other : List Token, other.take (k + 1) = tokens.take (k + 1) →
          parseExpression other = .error diagnostic) ∧
        ∃ (other : List Token) (e : Expr), other.take k = tokens.take k ∧
          other.getLast? = some .endOfInput ∧ parseExpression other = .ok e := by
  intro tokens diagnostic
  have ends : tokens.getLast? = some .endOfInput := by decide +kernel
  have refused : parseExpression tokens = .error diagnostic := by decide +kernel
  exact ⟨ends, refused, parseExpression_error_earliest ends rfl refused⟩

end Reckon.Grammar
