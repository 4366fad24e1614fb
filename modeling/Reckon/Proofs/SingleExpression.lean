/-
Module: Reckon.Proofs.SingleExpression
Purpose: Programs of one expression. If the tokens of a text write an expression that folds to a
  literal, the text has the value of that literal and no other. If the first operand of the
  expression is refused, so is the text. The tokens of a text that is one lexeme are that lexeme and
  the end of the input.
Main exports: scan_of_lexeme, scan_of_malformed, Grammar.parse_of_whole, Grammar.parse_of_faulty,
  Grammar.parse_of_signed_error, evaluate_of_written, evaluate_of_signed_error
-/
import Reckon.Proofs.Sequencing

namespace Reckon

/-! ### Scanning one lexeme -/

/-- A lexeme at the end of a text is the only token from the gap before it on. -/
theorem Cursor.reads_of_lexeme {c : Cursor} {kind : TokenKind} {value : Option String}
    {gap lexeme : List Char} (here : c.rest = gap ++ lexeme) (passes : Passes false gap false)
    (formed : Lexeme kind value lexeme []) :
    c.Reads ⟨[(c.skip gap.length).tokenAt kind value lexeme], none⟩ := by
  have parts : c.rest = gap ++ (lexeme ++ []) := by rw [here, List.append_nil]
  have ended : ((c.skip gap.length).skip lexeme.length).rest = [] := by
    rw [rest_skip, rest_skip_passed here, List.drop_length]
  have nothing : ((c.skip gap.length).skip lexeme.length).Reads ⟨[], none⟩ := by
    apply Reads.nothing
    rw [ended]
    exact .nil
  exact .token parts passes formed nothing

/-- A text of one lexeme is scanned as one token. -/
theorem scan_of_lexeme {kind : TokenKind} {value : Option String} {lexeme : List Char}
    (formed : Lexeme kind value lexeme []) :
    scan (String.ofList lexeme) =
      ⟨[(Cursor.start lexeme).tokenAt kind value lexeme, .endOfInput], none⟩ := by
  have reads : (Cursor.start lexeme).Reads _ :=
    Cursor.reads_of_lexeme (List.nil_append _).symm .nil formed
  rw [scan_eq, String.toList_ofList, reads.tokens_eq]
  rfl

/-- A text of one malformed lexeme is complained about as a whole. -/
theorem scan_of_malformed {complaint : Complaint} {lexeme : List Char}
    (broken : Malformed complaint lexeme []) :
    scan (String.ofList lexeme) = ⟨[.endOfInput], some ⟨complaint, ⟨0, lexeme.length, 1, 1⟩⟩⟩ := by
  have parts : (Cursor.start lexeme).rest = [] ++ (lexeme ++ []) := by simp [Cursor.start]
  have reads := Cursor.Reads.malformed parts .nil broken
  rw [scan_eq, String.toList_ofList, reads.tokens_eq]
  simp [Cursor.skip, Cursor.spanOf, Cursor.start]

namespace Grammar

/-! ### Reading one expression -/

/-- Tokens that are one expression are no empty program. -/
theorem atEnd_of_whole {tokens : List Token} {e : Expr}
    (whole : expression nestingLimit tokens = .ok (e, [.endOfInput])) :
    atEnd tokens = false ∧ ∃ n, tokens.length = n + 1 := by
  obtain ⟨taken, rfl, derives⟩ := (readsWhole_expression nestingLimit).sound _ _ _ whole
  refine ⟨?_, taken.length, by simp⟩
  cases taken with
  | nil => exact absurd rfl derives.ne_nil
  | cons token tail => simpa [atEnd] using derives.ne_endOfInput token List.mem_cons_self

/-- An expression that takes all tokens is the only statement. -/
theorem parse_of_whole {tokens : List Token} {e : Expr}
    (whole : expression nestingLimit tokens = .ok (e, [.endOfInput]))
    (faultless : e.fold.firstError? = none) :
    parse tokens = ⟨[e.fold], .complete⟩ := by
  obtain ⟨more, n, length⟩ := atEnd_of_whole whole
  have read : statement tokens = .ok (e, [.endOfInput]) := statement_eq_ok whole
  rw [parse, length, statements_cons more read faultless, statements_of_atEnd rfl]

/-- An expression that takes all tokens and folds to an error ends the program. -/
theorem parse_of_faulty {tokens : List Token} {e : Expr} {diagnostic : Diagnostic}
    (whole : expression nestingLimit tokens = .ok (e, [.endOfInput]))
    (faulty : e.fold.firstError? = some diagnostic) :
    parse tokens = ⟨[], .faulty e.fold diagnostic⟩ := by
  obtain ⟨more, n, length⟩ := atEnd_of_whole whole
  have read : statement tokens = .ok (e, [.endOfInput]) := statement_eq_ok whole
  rw [parse, length, statements_succ, more, if_neg Bool.false_ne_true]
  simp only [read, faulty]

/-- What an operand of the tightest level is refused for, the whole expression is refused for. -/
theorem expression_of_signed_error {room : Nat} {tokens : List Token} {diagnostic : Diagnostic}
    (refused : signed (nestedReader room) tokens = .error diagnostic) :
    expression room tokens = .error diagnostic := by
  have refusedIn : ∀ levels : List Level,
      levels.foldr chain (signed (nestedReader room)) tokens = .error diagnostic := by
    intro levels
    induction levels with
    | nil => exact refused
    | cons level levels inductionHypothesis =>
        rw [List.foldr_cons, chain, inductionHypothesis, error_bind]
  rw [expression_eq_outermost, outermost, chains, refusedIn, error_bind]

/-- An operand that is refused at the start refuses the program. -/
theorem parse_of_signed_error {token : Token} {rest : List Token} {diagnostic : Diagnostic}
    (more : token.kind ≠ .endOfInput)
    (refused : signed (nestedReader nestingLimit) (token :: rest) = .error diagnostic) :
    parse (token :: rest) = ⟨[], .refused diagnostic⟩ := by
  have goesOn : atEnd (token :: rest) = false := by simpa [atEnd] using more
  have unread : statement (token :: rest) = .error diagnostic := by
    rw [statement, expression_of_signed_error refused, error_bind]
  rw [parse, List.length_cons, statements_succ, goesOn, if_neg Bool.false_ne_true]
  simp only [unread]

end Grammar

/-! ### Evaluating one expression -/

open Grammar

/-- A text whose tokens write an expression has the value that the expression folds to. -/
theorem evaluate_of_written {source : String} {tokens : List Token} {depth : Nat} {e : Expr}
    {span : Span} {v : Value} (scanned : scan source = ⟨tokens ++ [.endOfInput], none⟩)
    (written : Written 0 depth e tokens) (shallow : depth ≤ nestingLimit)
    (folded : e.fold = .value span v) : evaluate source = .ok [v] := by
  obtain ⟨e', same, whole⟩ := written.reads.back nestingLimit [.endOfInput] shallow
    (stops_of_closing (.inr rfl) 0 [])
  -- The tree that is read differs from the one that was written in its spans only.
  have sameFolded := Expr.withoutSpans_fold_eq same
  have faultless : e'.fold.firstError? = none :=
    Expr.firstError?_eq_none_of_withoutSpans sameFolded.symm (by rw [folded]; rfl)
  have literal : e'.fold.literal? = some v := by
    rw [← Expr.literal?_withoutSpans, sameFolded, Expr.literal?_withoutSpans, folded]
    rfl
  rw [evaluate_eq_outcome, scanned, parse_of_whole whole faultless]
  simp [Parsed.outcome, Parsed.complaint?, Parsed.values, literal]

theorem evaluate_of_signed_error {source : String} {token : Token} {rest : List Token}
    {diagnostic : Diagnostic} (scanned : scan source = ⟨token :: rest, none⟩)
    (more : token.kind ≠ .endOfInput)
    (refused : signed (nestedReader nestingLimit) (token :: rest) = .error diagnostic) :
    evaluate source = .error (.refused diagnostic) := by
  rw [evaluate_eq_outcome, scanned, parse_of_signed_error more refused]
  rfl

end Reckon
