/-
Module: Reckon.Proofs.Refusal
Purpose: What tokens are refused for, and where the refusal points. A reader that refuses its tokens
  does so for a token that is no literal, for nesting that is too deep, or for a missing
  parenthesis; it points at one of the tokens, at the place behind one, or at the end of the input.
  As with soundness there is one lemma a reader, which asks the same of the readers of its parts. A
  program is refused by its reader, or for the first error node of a statement that was read.
Main exports: Refusal, PointsAt, Refuses, refuses_expression, complaint?_statements
-/
import Reckon.Proofs.ReaderSoundness
import Reckon.Proofs.Sequencing

namespace Reckon.Grammar

/-! ### Refusing readers -/

/-- The refusals that some tokens may meet with. -/
inductive Refusal (tokens : List Token) : Diagnostic → Prop where
  /-- A token stands for no literal where one is needed. -/
  | noLiteral {token : Token} {complaint : Complaint} (member : token ∈ tokens)
      (refused : literal token = .error complaint) : Refusal tokens ⟨complaint, token.span⟩
  /-- The tokens end where a literal is needed. -/
  | nothing : Refusal tokens ⟨.unknownExpression .endOfInput, .endOfInput⟩
  | deepGroup {token : Token} (member : token ∈ tokens) :
      Refusal tokens ⟨.deepParentheses, token.span⟩
  | deepBranch {token : Token} (member : token ∈ tokens) :
      Refusal tokens ⟨.deepConditionals, token.span⟩
  /-- Another token stands where a group should be closed. -/
  | unclosed {token : Token} (member : token ∈ tokens) :
      Refusal tokens ⟨.missing .rightParen,
        .point token.span.stop token.span.line token.span.column⟩
  | unclosedAtEnd : Refusal tokens ⟨.missing .rightParen, .endOfInput⟩

/-- A refusal for some tokens is one for more. -/
theorem Refusal.mono {tokens others : List Token} {diagnostic : Diagnostic}
    (refusal : Refusal tokens diagnostic) (subset : tokens ⊆ others) :
    Refusal others diagnostic := by
  cases refusal with
  | noLiteral member refused => exact .noLiteral (subset member) refused
  | nothing => exact .nothing
  | deepGroup member => exact .deepGroup (subset member)
  | deepBranch member => exact .deepBranch (subset member)
  | unclosed member => exact .unclosed (subset member)
  | unclosedAtEnd => exact .unclosedAtEnd

/-- A refusal for tokens is one for the tokens with others before them. -/
theorem Refusal.append {tokens : List Token} {diagnostic : Diagnostic}
    (refusal : Refusal tokens diagnostic) (taken : List Token) :
    Refusal (taken ++ tokens) diagnostic :=
  refusal.mono (List.subset_append_right taken tokens)

theorem Refusal.cons {tokens : List Token} {diagnostic : Diagnostic}
    (refusal : Refusal tokens diagnostic) (token : Token) : Refusal (token :: tokens) diagnostic :=
  refusal.append [token]

/-- The places that a refusal of tokens may point at. -/
inductive PointsAt (tokens : List Token) : Span → Prop where
  | endOfInput : PointsAt tokens .endOfInput
  | token {token : Token} (member : token ∈ tokens) : PointsAt tokens token.span
  | behind {token : Token} (member : token ∈ tokens) :
      PointsAt tokens (.point token.span.stop token.span.line token.span.column)

/-- Every refusal points at a token, behind one, or to the end of the input. -/
theorem Refusal.pointsAt {tokens : List Token} {diagnostic : Diagnostic}
    (refusal : Refusal tokens diagnostic) : PointsAt tokens diagnostic.span := by
  cases refusal with
  | noLiteral member _ => exact .token member
  | nothing => exact .endOfInput
  | deepGroup member => exact .token member
  | deepBranch member => exact .token member
  | unclosed member => exact .behind member
  | unclosedAtEnd => exact .endOfInput

/-- What a reader refuses, it refuses for one of these reasons. -/
def Refuses (read : Parse) : Prop :=
  ∀ tokens diagnostic, read tokens = .error diagnostic → Refusal tokens diagnostic

/-! ### Literals, groups and signs -/

/-- Where there is no literal, the first token is complained about. -/
theorem refuses_leaf : Refuses leaf := by
  intro tokens diagnostic refused
  cases tokens with
  | nil =>
      cases refused
      exact .nothing
  | cons token tokens =>
      unfold leaf at refused
      dsimp only [List.head?_cons, Option.getD_some] at refused
      split at refused
      · cases refused
      · next complaint noLiteral =>
          cases refused
          exact .noLiteral List.mem_cons_self noLiteral

section Tight

variable {nested : Option Parse}

/-- A group is refused for its depth, for its inside, or for the parenthesis that is missing behind
it. -/
theorem refuses_primary (nestedSound : ∀ read ∈ nested, SoundAt 0 read)
    (nestedRefuses : ∀ read ∈ nested, Refuses read) : Refuses (primary nested) := by
  intro tokens diagnostic refused
  unfold primary at refused
  split at refused
  · exact refuses_leaf tokens diagnostic refused
  · next paren inside opened =>
      obtain ⟨rfl, _⟩ := take?_eq_some opened
      split at refused
      · cases refused
        exact .deepGroup List.mem_cons_self
      · next read =>
          rcases bind_eq_error.mp refused with inside | ⟨⟨e, rest⟩, insideRead, unclosed⟩
          · exact (nestedRefuses read rfl _ _ inside).cons paren
          · obtain ⟨taken, rfl, _⟩ := nestedSound read rfl _ _ _ insideRead
            dsimp only at unclosed
            split at unclosed
            · cases unclosed
            · cases unclosed
              refine Refusal.cons (Refusal.append ?_ taken) paren
              cases rest with
              | nil => exact .unclosedAtEnd
              | cons token rest => exact .unclosed List.mem_cons_self

/-- A sign is not refused, but the operand behind it may be. -/
theorem refusal_signed (primaryRefuses : Refuses (primary nested)) {op : UnaryOp} {sign : Token}
    {tokens : List Token} {diagnostic : Diagnostic}
    (refused : (do let (e, rest) ← primary nested tokens; .ok (.unary op sign.span e, rest)) =
      (.error diagnostic : Except Diagnostic (Expr × List Token))) :
    Refusal (sign :: tokens) diagnostic := by
  rcases bind_eq_error.mp refused with operand | ⟨_, _, built⟩
  · exact (primaryRefuses _ _ operand).cons sign
  · cases built

/-- Behind a sign, the operand is refused. -/
theorem refuses_signed (primaryRefuses : Refuses (primary nested)) : Refuses (signed nested) := by
  intro tokens diagnostic refused
  unfold signed at refused
  split at refused
  · next plus =>
      obtain ⟨rfl, _⟩ := take?_eq_some plus
      exact refusal_signed primaryRefuses refused
  · next minus =>
      obtain ⟨rfl, _⟩ := take?_eq_some minus
      split at refused
      · cases refused
      · exact refusal_signed primaryRefuses refused
  · exact primaryRefuses tokens diagnostic refused

end Tight

/-! ### Chains -/

section Chains

variable {level : Level} {operand : Parse}

/-- The rounds of a chain are refused for one of their operands. -/
theorem refuses_chainFrom (operandSound : SoundAt (level.rank + 1) operand)
    (operandRefuses : Refuses operand) (rounds : Nat) (left : Expr) :
    Refuses (chainFrom level operand rounds left) := by
  induction rounds generalizing left with
  | zero =>
      intro tokens diagnostic refused
      cases refused
  | succ rounds inductionHypothesis =>
      intro tokens diagnostic refused
      unfold chainFrom at refused
      split at refused
      · cases refused
      · next joint behind head =>
          obtain ⟨opTokens, rfl, _⟩ := operator_of_joint? head
          rcases bind_eq_error.mp refused with inRight | ⟨⟨right, rest⟩, rightRead, later⟩
          · exact (operandRefuses _ _ inRight).append opTokens
          · obtain ⟨taken, rfl, _⟩ := operandSound _ _ _ rightRead
            exact ((inductionHypothesis _ _ _ later).append taken).append opTokens

/-- A chain is refused for one of its operands. -/
theorem refuses_chain (operandSound : SoundAt (level.rank + 1) operand)
    (operandRefuses : Refuses operand) : Refuses (chain level operand) := by
  intro tokens diagnostic refused
  rcases bind_eq_error.mp refused with first | ⟨⟨left, rest⟩, leftRead, later⟩
  · exact operandRefuses _ _ first
  · obtain ⟨taken, rfl, _⟩ := operandSound _ _ _ leftRead
    exact (refuses_chainFrom operandSound operandRefuses _ _ _ _ later).append taken

end Chains

/-! ### Conditionals and whole expressions -/

/-- The rounds of conditionals are refused for their depth or for one of their branches. -/
theorem refuses_conditionalsFrom {nested : Option Parse}
    (nestedSound : ∀ read ∈ nested, SoundAt 0 read) (nestedRefuses : ∀ read ∈ nested, Refuses read)
    (rounds : Nat) (cond : Expr) :
    Refuses (conditionalsFrom nested rounds cond) := by
  induction rounds generalizing cond with
  | zero =>
      intro tokens diagnostic refused
      cases refused
  | succ rounds inductionHypothesis =>
      intro tokens diagnostic refused
      unfold conditionalsFrom at refused
      split at refused
      · cases refused
      · next question behind asked =>
          obtain ⟨rfl, _⟩ := take?_eq_some asked
          split at refused
          · cases refused
            exact .deepBranch List.mem_cons_self
          · next branch =>
              apply Refusal.cons
              rcases bind_eq_error.mp refused with
                inTrue | ⟨⟨ifTrue, afterTrue⟩, trueRead, continued⟩
              · exact nestedRefuses branch rfl _ _ inTrue
              · obtain ⟨trueTokens, rfl, _⟩ := nestedSound branch rfl _ _ _ trueRead
                apply Refusal.append
                dsimp only at continued
                split at continued
                · exact inductionHypothesis _ _ _ continued
                · next colon afterColon parted =>
                    obtain ⟨rfl, _⟩ := take?_eq_some parted
                    apply Refusal.cons
                    rcases bind_eq_error.mp continued with
                      inFalse | ⟨⟨ifFalse, afterFalse⟩, falseRead, later⟩
                    · exact nestedRefuses branch rfl _ _ inFalse
                    · obtain ⟨falseTokens, rfl, _⟩ := nestedSound branch rfl _ _ _ falseRead
                      exact (inductionHypothesis _ _ _ later).append falseTokens

/-- An expression is refused for its condition or for what follows it. -/
theorem refuses_outermost {nested : Option Parse} (nestedSound : ∀ read ∈ nested, SoundAt 0 read)
    (nestedRefuses : ∀ read ∈ nested, Refuses read)
    (condSound : SoundAt Level.coalesce.rank (chains (signed nested)))
    (condRefuses : Refuses (chains (signed nested))) : Refuses (outermost nested) := by
  intro tokens diagnostic refused
  rcases bind_eq_error.mp refused with inCond | ⟨⟨cond, rest⟩, condRead, later⟩
  · exact condRefuses _ _ inCond
  · obtain ⟨taken, rfl, _⟩ := condSound _ _ _ condRead
    exact (refuses_conditionalsFrom nestedSound nestedRefuses _ _ _ _ later).append taken

/-- Whatever an expression is refused for, the complaint is of one of the few kinds and points at
the tokens. -/
theorem refuses_expression (room : Nat) : Refuses (expression room) := by
  -- A part is refused behind the tokens of the parts before it, so soundness goes along in the
  -- induction.
  have readers := reader_induction (fun read => ReadsWhole read ∧ Refuses read)
    (fun rank read => SoundAt rank read ∧ Refuses read) ?signed ?chain ?outermost room
  · exact readers.1.2
  case signed =>
    intro nested nestedBoth
    have nestedSound := fun read member => (nestedBoth read member).1.sound
    have nestedRefuses := fun read member => (nestedBoth read member).2
    exact ⟨soundAt_signed nestedSound, refuses_signed (refuses_primary nestedSound nestedRefuses)⟩
  case chain =>
    rintro level operand ⟨operandSound, operandRefuses⟩
    exact ⟨soundAt_chain operandSound, refuses_chain operandSound operandRefuses⟩
  case outermost =>
    rintro nested nestedBoth ⟨condSound, condRefuses⟩
    have nestedWhole := fun read member => (nestedBoth read member).1
    have nestedRefuses := fun read member => (nestedBoth read member).2
    exact ⟨readsWhole_outermost nestedWhole condSound,
      refuses_outermost (fun read member => (nestedWhole read member).sound) nestedRefuses condSound
        condRefuses⟩

/-! ### Programs -/

/-- What is left behind a statement stands behind the tokens of its expression. -/
theorem suffix_of_statement {tokens rest : List Token} {e : Expr}
    (read : statement tokens = .ok (e, rest)) :
    rest <:+ tokens ∧ ∃ taken, taken <+: tokens ∧ Derives 0 e taken := by
  obtain ⟨⟨tree, behind⟩, expressionRead, _⟩ := bind_eq_ok.mp read
  rw [statement_eq_ok expressionRead] at read
  cases read
  obtain ⟨taken, rfl, derives⟩ := (readsWhole_expression nestingLimit).sound _ _ _ expressionRead
  refine ⟨List.IsSuffix.trans ?_ (List.suffix_append taken behind), taken,
    List.prefix_append taken behind, derives⟩
  cases parted : take? .semicolon behind with
  | none => exact List.suffix_refl behind
  | some result =>
      obtain ⟨rfl, _⟩ := take?_eq_some parted
      exact List.suffix_cons _ _

/-- A statement is refused for its expression only. -/
theorem refuses_statement : Refuses statement := by
  intro tokens diagnostic refused
  rcases bind_eq_error.mp refused with unread | ⟨⟨e, rest⟩, read, ended⟩
  · exact refuses_expression nestingLimit _ _ unread
  · dsimp only at ended
    split at ended <;> cases ended

/-- The complaint about a program is a refusal of its tokens, or it is that of the first error node
of a tree which derives from some of them in a row. -/
theorem complaint?_statements {rounds : Nat} {tokens : List Token} {diagnostic : Diagnostic}
    (complained : (statements rounds tokens).complaint? = some diagnostic) :
    Refusal tokens diagnostic ∨
      ∃ e taken, taken <:+: tokens ∧ Derives 0 e taken ∧ e.fold.firstError? = some diagnostic := by
  induction rounds generalizing tokens with
  | zero => cases complained
  | succ rounds inductionHypothesis =>
      cases ended : atEnd tokens with
      | true =>
          rw [statements_of_atEnd ended] at complained
          cases complained
      | false =>
          cases read : statement tokens with
          | error refusal =>
              rw [statements_succ, ended, if_neg Bool.false_ne_true, read] at complained
              cases complained
              exact .inl (refuses_statement tokens _ read)
          | ok result =>
              obtain ⟨e, rest⟩ := result
              obtain ⟨suffix, taken, isPrefix, derives⟩ := suffix_of_statement read
              cases faulty : e.fold.firstError? with
              | some fault =>
                  rw [statements_succ, ended, if_neg Bool.false_ne_true] at complained
                  simp only [read, faulty] at complained
                  cases complained
                  exact .inr ⟨e, taken, isPrefix.isInfix, derives, faulty⟩
              | none =>
                  rw [statements_cons ended read faulty] at complained
                  rcases inductionHypothesis complained with
                    refusal | ⟨later, tokens', isInfix, inLater, found⟩
                  · exact .inl (refusal.mono suffix.subset)
                  · exact .inr ⟨later, tokens', isInfix.trans suffix.isInfix, inLater, found⟩

end Reckon.Grammar
