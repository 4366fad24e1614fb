/-
Module: Reckon.Proofs.Rounds
Purpose: A chain and a row of conditionals are alike in their form: a first tree, and rounds behind
  it for as long as the tokens begin another one. The loops of both are shown to be one loop over
  their rounds, so that what holds of a round is carried through the loop once for both.
Main exports: ReadRound, repeated, series, chainRound, chain_eq_series, conditionalRound,
  ConditionalRound, conditionalRound_eq_iff, outermost_eq_series
-/
import Reckon.Proofs.ReaderSoundness

namespace Reckon.Grammar

/-! ### Rounds behind a tree -/

/-- Reads one round behind a tree, if the tokens begin one. -/
abbrev ReadRound := Expr → List Token → Option (Except Diagnostic (Expr × List Token))

/-- Goes on from a tree round by round, until the tokens do not begin another. -/
def repeated (round : ReadRound) : (rounds : Nat) → Expr → Parse
  | 0, left, tokens => .ok (left, tokens)
  | rounds + 1, left, tokens =>
    match round left tokens with
    | none => .ok (left, tokens)
    | some result => do
      let (e, rest) ← result
      repeated round rounds e rest

/-- Reads a first tree, and goes on from it. -/
def series (first : Parse) (round : ReadRound) : Parse :=
  fun tokens => do
    let (left, rest) ← first tokens
    repeated round rest.length left rest

section Rounds

variable {round : ReadRound} {left e : Expr} {tokens rest : List Token}

/-- Rounds end where none begins. -/
theorem repeated_of_none (unbegun : round left tokens = none) (rounds : Nat) :
    repeated round rounds left tokens = .ok (left, tokens) := by
  cases rounds with
  | zero => rfl
  | succ rounds => rw [repeated, unbegun]

/-- Rounds are refused where one is. -/
theorem repeated_of_error {diagnostic : Diagnostic}
    (refused : round left tokens = some (.error diagnostic)) {rounds : Nat} (more : rounds ≠ 0) :
    repeated round rounds left tokens = .error diagnostic := by
  obtain ⟨rounds, rfl⟩ := Nat.exists_eq_succ_of_ne_zero more
  rw [repeated, refused]
  rfl

/-- A round that is read leaves the rest to the others. -/
theorem repeated_of_ok (read : round left tokens = some (.ok (e, rest))) (rounds : Nat) :
    repeated round (rounds + 1) left tokens = repeated round rounds e rest := by
  rw [repeated, read]
  rfl

/-- A round that takes tokens leaves rounds enough for the tokens behind it. -/
theorem exists_repeated_eq {taken : List Token} (nonempty : taken ≠ [])
    (read : round left (taken ++ rest) = some (.ok (e, rest))) {rounds : Nat}
    (enough : (taken ++ rest).length ≤ rounds) :
    ∃ fewer, rest.length ≤ fewer ∧
      repeated round rounds left (taken ++ rest) = repeated round fewer e rest := by
  have progress := List.length_pos_iff.mpr nonempty
  rw [List.length_append] at enough
  obtain ⟨fewer, rfl⟩ := Nat.exists_eq_succ_of_ne_zero (show rounds ≠ 0 by omega)
  exact ⟨fewer, by omega, repeated_of_ok read fewer⟩

end Rounds

/-! ### Chains -/

section Chains

variable {level : Level} {operand : Parse}

/-- An operator of a level and the operand behind it. -/
def chainRound (level : Level) (operand : Parse) : ReadRound := fun left tokens =>
  (level.joint? tokens).map fun (joint, rest) => do
    let (right, rest) ← operand rest
    .ok (joint.build left right, rest)

theorem chainFrom_eq_repeated (rounds : Nat) (left : Expr) (tokens : List Token) :
    chainFrom level operand rounds left tokens =
      repeated (chainRound level operand) rounds left tokens := by
  induction rounds generalizing left tokens with
  | zero => rfl
  | succ rounds inductionHypothesis =>
      cases head : level.joint? tokens with
      | none =>
          rw [chainFrom_of_joint?_eq_none head, repeated_of_none (by simp [chainRound, head])]
      | some found =>
          obtain ⟨joint, rest⟩ := found
          cases read : operand rest with
          | error diagnostic => simp [chainFrom, repeated, chainRound, head, read]
          | ok result => simp [chainFrom, repeated, chainRound, head, read, inductionHypothesis]

/-- A chain is a series of rounds behind its first operand. -/
theorem chain_eq_series : chain level operand = series operand (chainRound level operand) := by
  funext tokens
  simp only [chain, series, chainFrom_eq_repeated]

end Chains

/-! ### Conditionals -/

/-- A question mark, the branch behind it, and the alternative if there is one. -/
def conditionalRound (nested : Option Parse) : ReadRound := fun cond tokens =>
  (take? .question tokens).map fun (question, rest) =>
    match nested with
    | none => .error ⟨.deepConditionals, question.span⟩
    | some branch => do
      let (ifTrue, rest) ← branch rest
      match take? .colon rest with
      | none => .ok (.guarded cond ifTrue, rest)
      | some (_, rest) => do
        let (ifFalse, rest) ← branch rest
        .ok (.conditional cond ifTrue ifFalse, rest)

/-- What becomes of the tokens in such a round. -/
inductive ConditionalRound (cond : Expr) :
    Option Parse → List Token → Option (Except Diagnostic (Expr × List Token)) → Prop where
  | unasked {nested : Option Parse} {tokens : List Token}
      (unasked : take? .question tokens = none) :
      ConditionalRound cond nested tokens none
  | deep {question : Token} {tokens : List Token} (asks : question.kind = .question) :
      ConditionalRound cond none (question :: tokens)
        (some (.error ⟨.deepConditionals, question.span⟩))
  | refusedTrue {branch : Parse} {question : Token} {tokens : List Token} {diagnostic : Diagnostic}
      (asks : question.kind = .question) (trueRefused : branch tokens = .error diagnostic) :
      ConditionalRound cond (some branch) (question :: tokens) (some (.error diagnostic))
  | guarded {branch : Parse} {question : Token} {tokens rest : List Token} {ifTrue : Expr}
      (asks : question.kind = .question) (trueRead : branch tokens = .ok (ifTrue, rest))
      (unparted : take? .colon rest = none) :
      ConditionalRound cond (some branch) (question :: tokens)
        (some (.ok (.guarded cond ifTrue, rest)))
  | refusedFalse {branch : Parse} {question colon : Token} {tokens rest : List Token}
      {ifTrue : Expr}
      {diagnostic : Diagnostic} (asks : question.kind = .question) (parts : colon.kind = .colon)
      (trueRead : branch tokens = .ok (ifTrue, colon :: rest))
      (falseRefused : branch rest = .error diagnostic) :
      ConditionalRound cond (some branch) (question :: tokens) (some (.error diagnostic))
  | conditional {branch : Parse} {question colon : Token} {tokens rest behind : List Token}
      {ifTrue ifFalse : Expr} (asks : question.kind = .question) (parts : colon.kind = .colon)
      (trueRead : branch tokens = .ok (ifTrue, colon :: rest))
      (falseRead : branch rest = .ok (ifFalse, behind)) :
      ConditionalRound cond (some branch) (question :: tokens)
        (some (.ok (.conditional cond ifTrue ifFalse, behind)))

/-- The rules of a conditional round describe what it does. -/
theorem ConditionalRound.eq {cond : Expr} {nested : Option Parse} {tokens : List Token}
    {result : Option (Except Diagnostic (Expr × List Token))}
    (round : ConditionalRound cond nested tokens result) :
    conditionalRound nested cond tokens = result := by
  cases round with
  | unasked unasked => simp [conditionalRound, unasked]
  | deep asks => simp [conditionalRound, take?_of_kind asks]
  | refusedTrue asks trueRefused => simp [conditionalRound, take?_of_kind asks, trueRefused]
  | guarded asks trueRead unparted =>
      simp [conditionalRound, take?_of_kind asks, trueRead, unparted]
  | refusedFalse asks parts trueRead falseRefused =>
      simp [conditionalRound, take?_of_kind asks, trueRead, take?_of_kind parts, falseRefused]
  | conditional asks parts trueRead falseRead =>
      simp [conditionalRound, take?_of_kind asks, trueRead, take?_of_kind parts, falseRead]

/-- The rules of a conditional round leave no case out. -/
theorem exists_conditionalRound (cond : Expr) (nested : Option Parse) (tokens : List Token) :
    ∃ result, ConditionalRound cond nested tokens result := by
  cases asked : take? .question tokens with
  | none => exact ⟨_, .unasked asked⟩
  | some asking =>
      obtain ⟨rfl, asks⟩ := take?_eq_some asked
      cases nested with
      | none => exact ⟨_, .deep asks⟩
      | some branch =>
          cases trueRead : branch asking.2 with
          | error diagnostic => exact ⟨_, .refusedTrue asks trueRead⟩
          | ok result =>
              obtain ⟨ifTrue, rest⟩ := result
              cases parted : take? .colon rest with
              | none => exact ⟨_, .guarded asks trueRead parted⟩
              | some parting =>
                  obtain ⟨rfl, parts⟩ := take?_eq_some parted
                  cases falseRead : branch parting.2 with
                  | error diagnostic => exact ⟨_, .refusedFalse asks parts trueRead falseRead⟩
                  | ok result => exact ⟨_, .conditional asks parts trueRead falseRead⟩

/-- What a round gives is what becomes of its tokens. -/
theorem conditionalRound_eq_iff {cond : Expr} {nested : Option Parse} {tokens : List Token}
    {result : Option (Except Diagnostic (Expr × List Token))} :
    conditionalRound nested cond tokens = result ↔ ConditionalRound cond nested tokens result := by
  refine ⟨?_, ConditionalRound.eq⟩
  rintro rfl
  obtain ⟨result, round⟩ := exists_conditionalRound cond nested tokens
  rwa [round.eq]

theorem conditionalsFrom_eq_repeated {nested : Option Parse} (rounds : Nat) (cond : Expr)
    (tokens : List Token) :
    conditionalsFrom nested rounds cond tokens =
      repeated (conditionalRound nested) rounds cond tokens := by
  induction rounds generalizing cond tokens with
  | zero => rfl
  | succ rounds inductionHypothesis =>
      obtain ⟨result, round⟩ := exists_conditionalRound cond nested tokens
      rw [repeated, round.eq]
      cases round with
      | unasked unasked => simp [conditionalsFrom, unasked]
      | deep asks => simp [conditionalsFrom, take?_of_kind asks]
      | refusedTrue asks trueRefused => simp [conditionalsFrom, take?_of_kind asks, trueRefused]
      | guarded asks trueRead unparted =>
          simp [conditionalsFrom, take?_of_kind asks, trueRead, unparted, inductionHypothesis]
      | refusedFalse asks parts trueRead falseRefused =>
          simp [conditionalsFrom, take?_of_kind asks, trueRead, take?_of_kind parts, falseRefused]
      | conditional asks parts trueRead falseRead =>
          simp [conditionalsFrom, take?_of_kind asks, trueRead, take?_of_kind parts, falseRead,
            inductionHypothesis]

/-- An expression is a series of conditionals behind its condition. -/
theorem outermost_eq_series {nested : Option Parse} :
    outermost nested = series (chains (signed nested)) (conditionalRound nested) := by
  funext tokens
  simp only [outermost, series, conditionalsFrom_eq_repeated]

end Reckon.Grammar
