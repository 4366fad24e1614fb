/-
Module: Reckon.Proofs.SpanErasure
Purpose: The words of a program settle what it comes to. Folding looks at no span, so trees that are
  the same without their spans fold to the same, and fail for the same reason; programs of the same
  words are read as the same statements; and so they have the same values, or are refused with the
  same complaint.
Main exports: Expr.withoutSpans_fold, Grammar.SameReading, Grammar.sameReading_of_words,
  Grammar.Parsed.outcome, evaluate_eq_outcome, SameOutcome, sameOutcome_of_words
-/
import Reckon.Proofs.FrontEnd
import Reckon.Proofs.ReaderAgreement

namespace Reckon

/-! ### Folding -/

namespace Expr

@[simp] theorem withoutSpans_withoutSpans (e : Expr) :
    e.withoutSpans.withoutSpans = e.withoutSpans := by
  induction e with
  | value | error => rfl
  | unary | binary | coalesce | conditional | guarded => simp_all [withoutSpans]

/-- Folding a sign does not look at spans. -/
theorem withoutSpans_foldUnary (op : UnaryOp) (opSpan : Span) (operand : Expr) :
    (foldUnary op .endOfInput operand.withoutSpans).withoutSpans =
      (foldUnary op opSpan operand).withoutSpans := by
  cases operand with
  | value span v =>
      simp only [withoutSpans, foldUnary]
      cases Value.unary op v <;> rfl
  | unary | binary | coalesce | conditional | guarded | error => simp [withoutSpans, foldUnary]

/-- What two literals fold to does not depend on their places. -/
theorem withoutSpans_foldLiterals (family : Family) (op : BinaryOp) (span : Span)
    (left right : Value) :
    (foldLiterals family op (.join .endOfInput .endOfInput) left right).withoutSpans =
      (foldLiterals family op span left right).withoutSpans := by
  unfold foldLiterals
  cases identityComplaint? family op left.kind with
  | some complaint => rfl
  | none => cases Value.binary op left right <;> rfl

/-- Folding an operation does not look at spans. -/
theorem withoutSpans_foldBinary (family : Family) (op : BinaryOp) (left right : Expr) :
    (foldBinary family op left.withoutSpans right.withoutSpans).withoutSpans =
      (foldBinary family op left right).withoutSpans := by
  cases left with
  | value leftSpan v =>
      cases right with
      | value rightSpan w => exact withoutSpans_foldLiterals family op _ v w
      | unary | binary | coalesce | conditional | guarded | error => simp [withoutSpans, foldBinary]
  | unary | binary | coalesce | conditional | guarded | error => simp [withoutSpans, foldBinary]

theorem withoutSpans_foldCoalesce (left right : Expr) :
    (foldCoalesce left.withoutSpans right.withoutSpans).withoutSpans =
      (foldCoalesce left right).withoutSpans := by
  cases left with
  | value span v => cases v <;> simp [withoutSpans, foldCoalesce]
  | unary | binary | coalesce | conditional | guarded | error => simp [withoutSpans, foldCoalesce]

/-- Folding a conditional does not look at spans. -/
theorem withoutSpans_foldConditional (cond ifTrue ifFalse : Expr) :
    (foldConditional cond.withoutSpans ifTrue.withoutSpans ifFalse.withoutSpans).withoutSpans =
      (foldConditional cond ifTrue ifFalse).withoutSpans := by
  cases cond with
  | value span v =>
      cases v with
      | bool b => cases b <;> simp [withoutSpans, foldConditional, verdict]
      | integer | float | string | null => simp [withoutSpans, foldConditional, verdict]
  | unary | binary | coalesce | conditional | guarded | error =>
      simp [withoutSpans, foldConditional, verdict]

theorem withoutSpans_foldGuarded (cond ifTrue : Expr) :
    (foldGuarded cond.withoutSpans ifTrue.withoutSpans).withoutSpans =
      (foldGuarded cond ifTrue).withoutSpans := by
  cases cond with
  | value span v =>
      cases v with
      | bool b => cases b <;> simp [withoutSpans, foldGuarded, verdict]
      | integer | float | string | null => simp [withoutSpans, foldGuarded, verdict]
  | unary | binary | coalesce | conditional | guarded | error =>
      simp [withoutSpans, foldGuarded, verdict]

/-- Folding looks at no span. -/
theorem withoutSpans_fold (e : Expr) : e.withoutSpans.fold.withoutSpans = e.fold.withoutSpans := by
  -- The lemma of a node is used twice: to drop the spans of the folded operands, and to put back
  -- those of the operands that were folded without theirs.
  induction e with
  | value | error => rfl
  | unary op opSpan operand inductionHypothesis =>
      rw [fold, ← withoutSpans_foldUnary op opSpan, ← inductionHypothesis, withoutSpans_foldUnary]
      rfl
  | binary family op left right leftInduction rightInduction =>
      rw [fold, ← withoutSpans_foldBinary, ← leftInduction, ← rightInduction,
        withoutSpans_foldBinary]
      rfl
  | coalesce left right leftInduction rightInduction =>
      rw [fold, ← withoutSpans_foldCoalesce, ← leftInduction, ← rightInduction,
        withoutSpans_foldCoalesce]
      rfl
  | conditional cond ifTrue ifFalse condInduction trueInduction falseInduction =>
      rw [fold, ← withoutSpans_foldConditional, ← condInduction, ← trueInduction, ← falseInduction,
        withoutSpans_foldConditional]
      rfl
  | guarded cond ifTrue condInduction trueInduction =>
      rw [fold, ← withoutSpans_foldGuarded, ← condInduction, ← trueInduction,
        withoutSpans_foldGuarded]
      rfl

/-- Trees that differ in their spans fold to such trees. -/
theorem withoutSpans_fold_eq {e e' : Expr} (same : e.withoutSpans = e'.withoutSpans) :
    e.fold.withoutSpans = e'.fold.withoutSpans := by
  rw [← withoutSpans_fold e, same, withoutSpans_fold]

theorem literal?_withoutSpans (e : Expr) : e.withoutSpans.literal? = e.literal? := by
  cases e <;> rfl

/-- The first error node of a tree is of the same complaint, wherever its parts stand. -/
theorem firstError?_withoutSpans (e : Expr) :
    e.withoutSpans.firstError?.map Diagnostic.complaint =
      e.firstError?.map Diagnostic.complaint := by
  induction e with
  | value | error => rfl
  | unary | binary | coalesce | conditional | guarded =>
      simp_all [withoutSpans, firstError?, Option.map_or]

/-- Trees that differ in their spans have the same first complaint. -/
theorem firstError?_eq_of_withoutSpans {e e' : Expr} (same : e.withoutSpans = e'.withoutSpans) :
    e.firstError?.map Diagnostic.complaint = e'.firstError?.map Diagnostic.complaint := by
  rw [← firstError?_withoutSpans e, same, firstError?_withoutSpans]

theorem firstError?_eq_none_of_withoutSpans {e e' : Expr} (same : e.withoutSpans = e'.withoutSpans)
    (faultless : e.firstError? = none) : e'.firstError? = none := by
  have sameError := firstError?_eq_of_withoutSpans same
  rw [faultless, Option.map_none] at sameError
  exact Option.map_eq_none_iff.mp sameError.symm

end Expr

/-! ### Reading programs -/

namespace Grammar

/-- Two readings of programs that keep the same statements and end for the same reason. -/
structure SameReading (first second : Parsed) : Prop where
  statements : first.statements.map Expr.withoutSpans = second.statements.map Expr.withoutSpans
  complaint : first.complaint?.map Diagnostic.complaint = second.complaint?.map Diagnostic.complaint

/-- Statements of the same words are read alike. -/
theorem alike_statement {n : Nat} {firsts seconds : List Token}
    (aligned : Aligned [] [] n firsts seconds) :
    Alike [] [] n (statement firsts) (statement seconds) := by
  apply (agrees_expression nestingLimit n firsts seconds aligned).bind
  intro m e e' rest rest' same fewer behind
  rcases behind.bothTake_take? .semicolon (by simp) (by simp) with ⟨noneFirst, noneSecond⟩ |
    ⟨k, _, _, after, after', _, fewer', behind', someFirst, someSecond⟩
  · simp only [noneFirst, noneSecond]
    exact .ok same fewer behind
  · simp only [someFirst, someSecond]
    exact .ok same (Nat.lt_trans fewer' fewer) behind'

theorem Aligned.atEnd_eq {n : Nat} {firsts seconds : List Token}
    (aligned : Aligned [] [] n firsts seconds) : atEnd firsts = atEnd seconds := by
  cases aligned with
  | tails _ _ => rfl
  | cons same _ => simp only [atEnd, kind_eq_of_word same]

theorem statements_of_atEnd {tokens : List Token} (ended : atEnd tokens = true) (rounds : Nat) :
    statements rounds tokens = ⟨[], .complete⟩ := by
  cases rounds with
  | zero => exact statements_zero tokens
  | succ rounds => rw [statements_succ, if_pos ended]

/-- By induction on the words that are left, programs of the same words are read alike. -/
theorem sameReading_of_aligned {rounds rounds' n : Nat} {firsts seconds : List Token}
    (enough : n ≤ rounds) (enough' : n ≤ rounds') (aligned : Aligned [] [] n firsts seconds) :
    SameReading (statements rounds firsts) (statements rounds' seconds) := by
  induction n using Nat.strong_induction_on generalizing rounds rounds' firsts seconds with
  | _ n inductionHypothesis =>
      cases n with
      | zero =>
          cases aligned
          rw [statements_of_atEnd rfl, statements_of_atEnd rfl]
          exact ⟨rfl, rfl⟩
      | succ n =>
          obtain ⟨rounds, rfl⟩ := Nat.exists_eq_add_one_of_ne_zero (show rounds ≠ 0 by omega)
          obtain ⟨rounds', rfl⟩ := Nat.exists_eq_add_one_of_ne_zero (show rounds' ≠ 0 by omega)
          rw [statements_succ, statements_succ, aligned.atEnd_eq]
          split
          · exact ⟨rfl, rfl⟩
          · have alike := alike_statement aligned
            generalize statement firsts = x at alike ⊢
            generalize statement seconds = y at alike ⊢
            cases alike with
            | error same => exact ⟨rfl, congrArg some (same rfl)⟩
            | @ok m e e' rest rest' same fewer behind =>
                have sameFolded := Expr.withoutSpans_fold_eq same
                cases first : e.fold.firstError? with
                | some d =>
                    have sameError := Expr.firstError?_eq_of_withoutSpans sameFolded
                    rw [first, Option.map_some] at sameError
                    obtain ⟨d', second, sameComplaint⟩ := Option.map_eq_some_iff.mp sameError.symm
                    simp only [first, second]
                    exact ⟨rfl, congrArg some sameComplaint.symm⟩
                | none =>
                    have second := Expr.firstError?_eq_none_of_withoutSpans sameFolded first
                    simp only [first, second]
                    have onward := inductionHypothesis m fewer (show m ≤ rounds by omega)
                      (show m ≤ rounds' by omega) behind
                    refine ⟨?_, onward.complaint⟩
                    simp only [List.map_cons, sameFolded, onward.statements]

/-- Programs of the same words are read as the same statements. -/
theorem sameReading_of_words {rounds : Nat} {firsts seconds : List Token}
    (enough : firsts.length ≤ rounds) (sameWords : firsts.map Token.word = seconds.map Token.word) :
    SameReading (statements rounds firsts) (parse seconds) := by
  have aligned : Aligned [] [] firsts.length firsts seconds := by
    simpa using Aligned.of_words closes_nil closes_nil sameWords
  exact sameReading_of_aligned enough aligned.le_length.2 aligned

/-- The values of the literals that a reading kept. -/
def Parsed.values (p : Parsed) : List Value :=
  p.statements.filterMap Expr.literal?

/-- Programs that are read alike have the same values. -/
theorem SameReading.values_eq {first second : Parsed} (same : SameReading first second) :
    first.values = second.values := by
  have spanless : ∀ p : Parsed,
      p.values = (p.statements.map Expr.withoutSpans).filterMap Expr.literal? := by
    intro p
    rw [List.filterMap_map]
    exact List.filterMap_congr fun e _ => (Expr.literal?_withoutSpans e).symm
  rw [spanless first, same.statements, ← spanless second]

/-- What comes of a reading: a refusal if there is a complaint, first of all about the words;
otherwise the values of its literals. -/
def Parsed.outcome (lexical : Option Diagnostic) (p : Parsed) : Except Failure (List Value) :=
  match lexical.or p.complaint? with
  | some diagnostic => .error (.refused diagnostic)
  | none => .ok p.values

theorem Parsed.outcome_eq_ok {lexical : Option Diagnostic} {p : Parsed} {values : List Value}
    (settled : p.outcome lexical = .ok values) :
    lexical = none ∧ p.complaint? = none ∧ p.values = values := by
  unfold outcome at settled
  split at settled
  · cases settled
  · next clean =>
      cases settled
      obtain ⟨noLexical, noGrammatical⟩ := Option.or_eq_none_iff.mp clean
      exact ⟨noLexical, noGrammatical, rfl⟩

end Grammar

/-! ### Evaluating programs -/

open Grammar

/-- A program has the values of the literals that are read from it, unless there is a complaint. -/
theorem evaluate_eq_outcome (source : String) :
    evaluate source = (parse (scan source).tokens).outcome (scan source).complaint? := by
  cases lexical : (scan source).complaint? with
  | some diagnostic =>
      simp only [evaluate, compile, lexical, error_bind, Parsed.outcome, Option.some_or]
  | none =>
      cases grammatical : (parse (scan source).tokens).complaint? with
      | some diagnostic =>
          simp only [evaluate, compile, lexical, grammatical, error_bind, Parsed.outcome,
            Option.none_or]
      | none =>
          have literals : ∀ e ∈ (parse (scan source).tokens).statements, e.IsNarrowLiteral :=
            fun e member => isNarrowLiteral_of_mem_statements member
          obtain ⟨code, values, lowered, executed, _, _, listed⟩ := Stmt.lower_literals literals
          have valuesEq : (parse (scan source).tokens).values = values := by
            have kept := congrArg (List.filterMap id) listed
            simpa [Parsed.values] using kept
          simp only [evaluate, compile, lexical, grammatical, Parsed.block, lowered, executed,
            ok_bind, mapError_ok, Parsed.outcome, Option.none_or, valuesEq]

/-- The same values, or refusals with the same complaint: then their class and their wording are the
same too. -/
inductive SameOutcome : Except Failure (List Value) → Except Failure (List Value) → Prop where
  | values (values : List Value) : SameOutcome (.ok values) (.ok values)
  | refused {first second : Diagnostic} (same : first.complaint = second.complaint) :
      SameOutcome (.error (.refused first)) (.error (.refused second))

/-- Programs that are read alike have the same outcome. -/
theorem Grammar.SameReading.sameOutcome_outcome {first second : Parsed}
    {lexical lexical' : Option Diagnostic} (same : SameReading first second)
    (sameLexical : lexical.map Diagnostic.complaint = lexical'.map Diagnostic.complaint) :
    SameOutcome (first.outcome lexical) (second.outcome lexical') := by
  have sameComplaint : (lexical.or first.complaint?).map Diagnostic.complaint =
      (lexical'.or second.complaint?).map Diagnostic.complaint := by
    rw [Option.map_or, Option.map_or, sameLexical, same.complaint]
  unfold Parsed.outcome
  cases complaint : lexical.or first.complaint? with
  | some diagnostic =>
      rw [complaint, Option.map_some] at sameComplaint
      obtain ⟨diagnostic', complaint', sameEach⟩ := Option.map_eq_some_iff.mp sameComplaint.symm
      rw [complaint']
      exact .refused sameEach.symm
  | none =>
      rw [complaint, Option.map_none] at sameComplaint
      rw [Option.map_eq_none_iff.mp sameComplaint.symm, same.values_eq]
      exact .values _

/-- The words of a program, and the complaint about what is no word, settle what it comes to. -/
theorem sameOutcome_of_words {source other : String}
    (sameLexical : (scan source).complaint?.map Diagnostic.complaint =
      (scan other).complaint?.map Diagnostic.complaint)
    (sameWords : (scan source).tokens.map Token.word = (scan other).tokens.map Token.word) :
    SameOutcome (evaluate source) (evaluate other) := by
  rw [evaluate_eq_outcome, evaluate_eq_outcome]
  exact (sameReading_of_words (Nat.le_refl _) sameWords).sameOutcome_outcome sameLexical

end Reckon
