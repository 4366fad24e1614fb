/-
Module: Reckon.Proofs.Sequencing
Purpose: Programs one after another. A newline and a semicolon between two programs end the last
  word of the first and its last statement, so the second is read as if it stood alone: its values
  follow those of the first, and what it is refused for, the whole is refused for.
Main exports: Worded.newline, Worded.semicolon, Grammar.Open, Grammar.statements_sequence,
  evaluate_sequence
-/
import Reckon.Proofs.Partition
import Reckon.Proofs.SpanErasure
import Reckon.Proofs.Worded

namespace Reckon

/-! ### The words of two texts -/

/-- A newline ends a comment, and outside of one it is passed over. -/
theorem Passes.newline {text : List Char} {after : Bool} (passes : Passes false text after) :
    Passes false (text ++ ['\n']) false := by
  apply passes.append
  cases after with
  | true => exact .inside .nil
  | false => exact .outside (by decide) .nil

/-- Behind a newline the words of another text begin. -/
theorem Worded.newline {text more : List Char} {words others : List Word}
    {complaint? : Option Complaint} (worded : Worded text words none)
    (wordedMore : Worded more others complaint?) :
    Worded (text ++ '\n' :: more) (words ++ others) complaint? := by
  generalize complaintEq : (none : Option Complaint) = clean at worded
  induction worded with
  | nothing passes =>
      rw [← List.singleton_append, ← List.append_assoc]
      exact wordedMore.prepend passes.newline
  | malformed => cases complaintEq
  | @word passed lexeme rest kind value words clean passes formed _ inductionHypothesis =>
      rw [List.append_assoc, List.append_assoc]
      exact .word passes (formed.beforeNewline more) (inductionHypothesis complaintEq)

/-- The word that a semicolon is. -/
def Word.semicolon : Word :=
  ⟨.semicolon, none, ";"⟩

/-- A semicolon before a text is a word before its words. -/
theorem Worded.semicolon {text : List Char} {words : List Word} {complaint? : Option Complaint}
    (worded : Worded text words complaint?) :
    Worded (';' :: text) (.semicolon :: words) complaint? := by
  have alone : ∀ next ∈ text.head?, symbolPair? ';' next = none := fun next _ => rfl
  exact @Worded.word [] [';'] text .semicolon none words complaint? .nil (.symbol rfl alone) worded

/-- The end of the input is no word of a text. -/
theorem Worded.kind_ne {text : List Char} {words : List Word} {complaint? : Option Complaint}
    (worded : Worded text words complaint?) : ∀ word ∈ words, word.kind ≠ .endOfInput := by
  induction worded with
  | nothing | malformed => simp
  | word _ formed _ inductionHypothesis =>
      intro word member
      rcases List.mem_cons.mp member with rfl | later
      · exact formed.form.kind_ne
      · exact inductionHypothesis word later

/-! ### The statements of two programs -/

namespace Grammar

/-- Tokens that stand before the end of a program and do not end with a semicolon. -/
structure Open (words : List Token) : Prop where
  goesOn : ∀ token ∈ words, token.kind ≠ .endOfInput
  last : ∀ token ∈ words.getLast?, token.kind ≠ .semicolon

theorem Open.behind {taken words : List Token} (isOpen : Open (taken ++ words)) : Open words where
  goesOn token member := isOpen.goesOn token (List.mem_append_right taken member)
  last token member := by
    apply isOpen.last
    rw [List.getLast?_append, Option.mem_def.mp member]
    rfl

theorem Aligned.exists_words {firstTail secondTail : List Token} {n : Nat}
    {firsts seconds : List Token} (aligned : Aligned firstTail secondTail n firsts seconds) :
    ∃ words, firsts = words ++ firstTail ∧ words.length = n := by
  induction aligned with
  | tails _ _ => exact ⟨[], rfl, rfl⟩
  | @cons n first _ _ _ _ _ inductionHypothesis =>
      obtain ⟨words, rfl, rfl⟩ := inductionHypothesis
      exact ⟨first :: words, rfl, rfl⟩

/-- A statement is an expression and the semicolon behind it, if there is one. -/
theorem statement_eq_ok {tokens rest : List Token} {e : Expr}
    (read : expression nestingLimit tokens = .ok (e, rest)) :
    statement tokens = .ok (e, ((take? .semicolon rest).map Prod.snd).getD rest) := by
  simp only [statement, read, ok_bind]
  cases take? .semicolon rest <;> rfl

section Statement

variable {rounds : Nat} {tokens : List Token}

/-- A statement without an error is kept before those that follow it. -/
theorem statements_cons {rest : List Token} {e : Expr} (more : atEnd tokens = false)
    (read : statement tokens = .ok (e, rest)) (faultless : e.fold.firstError? = none) :
    statements (rounds + 1) tokens =
      ⟨e.fold :: (statements rounds rest).statements, (statements rounds rest).ending⟩ := by
  rw [statements_succ, more, if_neg Bool.false_ne_true]
  simp only [read, faultless]

/-- A program without a complaint begins with a statement that is read and has no error node. -/
theorem exists_statement_of_complete (more : atEnd tokens = false)
    (complete : (statements (rounds + 1) tokens).complaint? = none) :
    ∃ e rest, statement tokens = .ok (e, rest) ∧ e.fold.firstError? = none := by
  rw [statements_succ, more, if_neg Bool.false_ne_true] at complete
  cases read : statement tokens with
  | error d =>
      rw [read] at complete
      cases complete
  | ok result =>
      obtain ⟨e, rest⟩ := result
      rw [read] at complete
      cases faulty : e.fold.firstError? with
      | some d =>
          simp only [faulty] at complete
          cases complete
      | none => exact ⟨e, rest, rfl, faulty⟩

end Statement

section Sequence

variable {parting : Token} {more : List Token}

/-- One statement of a program that ends there, or goes on with a semicolon and another program. The
same statement is read; if it is the last of its program, the semicolon is passed over with it. -/
theorem statement_sequence {n : Nat} {words seconds rest : List Token} {e : Expr}
    (parts : parting.kind = .semicolon)
    (aligned : Aligned [.endOfInput] (parting :: more) n (words ++ [.endOfInput]) seconds)
    (isOpen : Open words) (read : statement (words ++ [.endOfInput]) = .ok (e, rest)) :
    ∃ e', e.withoutSpans = e'.withoutSpans ∧
      (rest = [.endOfInput] ∧ statement seconds = .ok (e', more) ∨
        ∃ m left rest', m < n ∧ left ≠ [] ∧ Open left ∧ rest = left ++ [.endOfInput] ∧
          Aligned [.endOfInput] (parting :: more) m rest rest' ∧
            statement seconds = .ok (e', rest')) := by
  obtain ⟨⟨tree, behind⟩, expressionRead, _⟩ := bind_eq_ok.mp read
  rw [statement_eq_ok expressionRead] at read
  cases read
  obtain ⟨taken, split, _⟩ := (readsWhole_expression nestingLimit).sound _ _ _ expressionRead
  have alike := agrees_expression nestingLimit n _ _ aligned
  rw [expressionRead] at alike
  generalize otherRead : expression nestingLimit seconds = other at alike
  cases alike with
  | @ok m _ e' _ behind' same fewer alignedBehind =>
      refine ⟨e', same, ?_⟩
      rw [statement_eq_ok otherRead]
      cases alignedBehind with
      | tails _ _ =>
          refine .inl ⟨rfl, ?_⟩
          rw [take?_of_kind parts]
          rfl
      | @cons k token token' firsts seconds' sameWord onward =>
          refine .inr ?_
          obtain ⟨left, rfl, _⟩ := onward.exists_words
          have wordsEq : words = taken ++ token :: left :=
            List.append_cancel_right
              (show words ++ [.endOfInput] =
                taken ++ token :: left ++ [.endOfInput] by simpa using split)
          rw [wordsEq] at isOpen
          -- A semicolon among the words is passed over in both programs, and it is not the last of
          -- them.
          by_cases isSemicolon : token.kind = .semicolon
          · rw [take?_of_kind isSemicolon,
              take?_of_kind ((kind_eq_of_word sameWord).symm.trans isSemicolon)]
            have notLast : left ≠ [] := by
              rintro rfl
              exact isOpen.behind.last token rfl isSemicolon
            have openLeft : Open left := by
              rw [← List.singleton_append, ← List.append_assoc] at isOpen
              exact isOpen.behind
            exact ⟨k, left, seconds', by omega, notLast, openLeft, rfl, onward, rfl⟩
          · have isSemicolon' : token'.kind ≠ .semicolon := by
              rw [← kind_eq_of_word sameWord]
              exact isSemicolon
            rw [take?_of_kind_ne isSemicolon, take?_of_kind_ne isSemicolon']
            exact ⟨k + 1, token :: left, token' :: seconds', fewer, by simp, isOpen.behind, rfl,
              .cons sameWord onward, rfl⟩

/-- Neither program is at its end while words of the first are left. -/
theorem Aligned.atEnd_eq_false {n : Nat} {words seconds : List Token}
    (aligned : Aligned [.endOfInput] (parting :: more) n (words ++ [.endOfInput]) seconds)
    (isOpen : Open words) (nonempty : words ≠ []) :
    n ≠ 0 ∧ atEnd (words ++ [.endOfInput]) = false ∧ atEnd seconds = false := by
  cases words with
  | nil => exact absurd rfl nonempty
  | cons token left =>
      have goesOn := isOpen.goesOn token List.mem_cons_self
      generalize firstsEq : token :: left ++ [.endOfInput] = firsts at aligned ⊢
      cases aligned with
      | tails _ _ => simp at firstsEq
      | cons same _ =>
          cases firstsEq
          simp [atEnd, ← kind_eq_of_word same, goesOn]

/-- The statements of a program that does not end with a semicolon are those that a semicolon and
another program leave in place; then the statements of the other follow. -/
theorem statements_sequence {n rounds rounds' : Nat} {words seconds : List Token}
    (parts : parting.kind = .semicolon)
    (aligned : Aligned [.endOfInput] (parting :: more) n (words ++ [.endOfInput]) seconds)
    (isOpen : Open words) (nonempty : words ≠ []) (enough : n ≤ rounds)
    (enough' : n + more.length ≤ rounds')
    (complete : (statements rounds (words ++ [.endOfInput])).complaint? = none) :
    ∃ before left, more.length ≤ left ∧
      before.map Expr.withoutSpans =
        (statements rounds (words ++ [.endOfInput])).statements.map Expr.withoutSpans ∧
      statements rounds' seconds =
        ⟨before ++ (statements left more).statements, (statements left more).ending⟩ := by
  induction n using Nat.strong_induction_on generalizing rounds rounds' words seconds with
  | _ n inductionHypothesis =>
      obtain ⟨positive, goesOn, goesOn'⟩ := aligned.atEnd_eq_false isOpen nonempty
      obtain ⟨rounds, rfl⟩ := Nat.exists_eq_add_one_of_ne_zero (show rounds ≠ 0 by omega)
      obtain ⟨rounds', rfl⟩ := Nat.exists_eq_add_one_of_ne_zero (show rounds' ≠ 0 by omega)
      obtain ⟨e, rest, read, faultless⟩ := exists_statement_of_complete goesOn complete
      rw [statements_cons goesOn read faultless] at complete ⊢
      obtain ⟨e', same, step⟩ := statement_sequence parts aligned isOpen read
      have sameFolded := Expr.withoutSpans_fold_eq same
      have faultless' := Expr.firstError?_eq_none_of_withoutSpans sameFolded faultless
      rcases step with ⟨rfl, read'⟩ | ⟨m, left, rest', fewer, notLast, openLeft, rfl, onward, read'⟩
      · refine ⟨[e'.fold], rounds', by omega, ?_, statements_cons goesOn' read' faultless'⟩
        rw [statements_of_atEnd rfl]
        simp only [List.map_cons, List.map_nil, sameFolded]
      · obtain ⟨before, later, enoughLater, beforeEq, otherEq⟩ :=
          inductionHypothesis m fewer onward openLeft notLast (show m ≤ rounds by omega)
            (show m + more.length ≤ rounds' by omega) complete
        refine ⟨e'.fold :: before, later, enoughLater, ?_, ?_⟩
        · simp only [List.map_cons, sameFolded, beforeEq]
        · rw [statements_cons goesOn' read' faultless', otherEq]
          rfl

/-- The words of two programs with a semicolon between them are read as the statements of both. -/
theorem sameReading_sequence {words others tokens : List Token} (isOpen : Open words)
    (nonempty : words ≠ []) (complete : (parse (words ++ [.endOfInput])).complaint? = none)
    (tokensEq : tokens.map Token.word =
      words.map Token.word ++ .semicolon :: others.map Token.word) :
    SameReading (parse tokens)
      ⟨(parse (words ++ [.endOfInput])).statements ++
        (parse others).statements, (parse others).ending⟩ := by
  obtain ⟨seconds, rest, rfl, secondsEq, restEq⟩ := List.map_eq_append_iff.mp tokensEq
  obtain ⟨parting, more, rfl, partingEq, moreEq⟩ := List.map_eq_cons_iff.mp restEq
  have parts : parting.kind = .semicolon := congrArg Word.kind partingEq
  have aligned : Aligned [.endOfInput] (parting :: more) words.length (words ++ [.endOfInput])
      (seconds ++ parting :: more) := by
    apply Aligned.of_words _ _ secondsEq.symm
    · rintro token ⟨⟩
      exact .inl rfl
    · rintro token ⟨⟩
      exact .inr parts
  have lengthEq : seconds.length = words.length := by
    simpa using congrArg List.length secondsEq
  obtain ⟨before, left, enough, beforeEq, readEq⟩ :=
    statements_sequence parts aligned isOpen nonempty aligned.le_length.1
      (show words.length + more.length ≤ (seconds ++ parting :: more).length by simp; omega)
      complete
  have sameRest := sameReading_of_words enough moreEq
  rw [parse, readEq]
  constructor
  · rw [List.map_append, List.map_append, beforeEq, sameRest.statements]
    rfl
  · exact sameRest.complaint

end Sequence

end Grammar

/-! ### The outcome of two programs -/

open Grammar

/-- Statements that are put before those of a reading put their values before its own. -/
theorem Grammar.Parsed.outcome_append (first second : Parsed) (lexical : Option Diagnostic) :
    (Parsed.mk (first.statements ++ second.statements) second.ending).outcome lexical =
      (second.outcome lexical).map (first.values ++ ·) := by
  have sameComplaint :
      (Parsed.mk (first.statements ++ second.statements) second.ending).complaint? =
      second.complaint? :=
    rfl
  unfold Parsed.outcome
  rw [sameComplaint]
  cases lexical.or second.complaint? with
  | some diagnostic => rfl
  | none => simp only [Parsed.values, List.filterMap_append, Except.map]

section Outcome

variable {u : String} {last : Token}

/-- A newline and a semicolon put the words of two texts one after another. -/
theorem scan_sequence (clean : (scan u).complaint? = none) (v : String) :
    (scan (u ++ "\n;" ++ v)).tokens.map Token.word =
        (scan u).tokens.dropLast.map Token.word ++ .semicolon :: (scan v).tokens.map Token.word ∧
      (scan (u ++ "\n;" ++ v)).complaint?.map Diagnostic.complaint =
        (scan v).complaint?.map Diagnostic.complaint := by
  have wordedFirst := worded_scan u
  rw [clean, Option.map_none] at wordedFirst
  have wordedSecond := worded_scan v
  have worded := wordedFirst.newline wordedSecond.semicolon
  have textEq : u.toList ++ '\n' :: ';' :: v.toList = (u ++ "\n;" ++ v).toList := by
    simp [String.toList_append]
  rw [textEq] at worded
  obtain ⟨wordsEq, complaintEq⟩ := worded.scan_words
  refine ⟨?_, complaintEq⟩
  rw [wordsEq, wordedSecond.scan_words.1, List.append_assoc, List.cons_append]

/-- The words of a text that does not end with a semicolon are open. -/
theorem open_scan (ends : (scan u).tokens.dropLast.getLast? = some last)
    (noSemicolon : last.kind ≠ .semicolon) : Open (scan u).tokens.dropLast where
  goesOn token member := (worded_scan u).kind_ne token.word (List.mem_map_of_mem member)
  last token member := by
    rw [ends] at member
    cases member
    exact noSemicolon

/-- The second program comes to what it comes to alone, with the values of the first before its
own. -/
theorem sameOutcome_sequence {xs : List Value} (evaluated : evaluate u = .ok xs)
    (ends : (scan u).tokens.dropLast.getLast? = some last) (noSemicolon : last.kind ≠ .semicolon)
    (v : String) : SameOutcome (evaluate (u ++ "\n;" ++ v)) ((evaluate v).map (xs ++ ·)) := by
  rw [evaluate_eq_outcome] at evaluated
  obtain ⟨clean, complete, rfl⟩ := Parsed.outcome_eq_ok evaluated
  obtain ⟨wordsEq, complaintEq⟩ := scan_sequence clean v
  have tokensEq : (scan u).tokens.dropLast ++ [.endOfInput] = (scan u).tokens := by
    rw [scan_eq, List.dropLast_concat]
  have nonempty : (scan u).tokens.dropLast ≠ [] := by
    intro isEmpty
    rw [isEmpty] at ends
    cases ends
  have reading := sameReading_sequence (open_scan ends noSemicolon) nonempty
    (by rw [tokensEq, complete]) wordsEq
  rw [tokensEq] at reading
  rw [evaluate_eq_outcome, evaluate_eq_outcome v, ← Parsed.outcome_append]
  exact reading.sameOutcome_outcome complaintEq

/-- If a program has values, and does not end with a semicolon, then behind it, on a new line, a
semicolon and any other program may follow. The values of the other follow those of the first; if
the other has none, it is refused, and the whole is refused with the same complaint. -/
theorem evaluate_sequence {xs : List Value} (evaluated : evaluate u = .ok xs)
    (ends : (scan u).tokens.dropLast.getLast? = some last) (noSemicolon : last.kind ≠ .semicolon)
    (v : String) :
    (∀ ys, evaluate v = .ok ys → evaluate (u ++ "\n;" ++ v) = .ok (xs ++ ys)) ∧
      ∀ failure, evaluate v = .error failure → ∃ alone whole, failure = .refused alone ∧
        evaluate (u ++ "\n;" ++ v) = .error (.refused whole) ∧
          whole.complaint = alone.complaint := by
  have same := sameOutcome_sequence evaluated ends noSemicolon v
  constructor
  · intro ys second
    rw [second] at same
    generalize evaluate (u ++ "\n;" ++ v) = outcome at same ⊢
    cases same
    rfl
  · intro failure second
    rw [second] at same
    generalize evaluate (u ++ "\n;" ++ v) = outcome at same ⊢
    cases same with
    | @refused whole alone sameComplaint => exact ⟨alone, whole, rfl, rfl, sameComplaint⟩

/-- The first program has two statements and ends within a comment; one that may follow it has a
value, another adds a string to an integer. -/
theorem evaluate_sequence_commentedSum :
    evaluate "1; 2 + 3 # five" = .ok [.integer 1, .integer 5] ∧
      (scan "1; 2 + 3 # five").tokens.dropLast.getLast? =
        some ⟨.integer, some "3", "3", ⟨7, 8, 1, 8⟩⟩ ∧
      evaluate ("1; 2 + 3 # five" ++ "\n;" ++ "4") = .ok [.integer 1, .integer 5, .integer 4] ∧
      ∃ whole, evaluate ("1; 2 + 3 # five" ++ "\n;" ++ "4 + 'a'") = .error (.refused whole) ∧
        whole.complaint = .binaryFault .unsupported .plus .integer .string := by
  have evaluated : evaluate "1; 2 + 3 # five" = .ok [.integer 1, .integer 5] := by decide +kernel
  have ends : (scan "1; 2 + 3 # five").tokens.dropLast.getLast? =
      some ⟨.integer, some "3", "3", ⟨7, 8, 1, 8⟩⟩ := by
    decide +kernel
  have four : evaluate "4" = .ok [.integer 4] := by decide +kernel
  have mixed : evaluate "4 + 'a'" =
      .error (.refused ⟨.binaryFault .unsupported .plus .integer .string, ⟨0, 7, 1, 1⟩⟩) := by
    decide +kernel
  obtain ⟨alone, whole, aloneEq, refused, same⟩ :=
    (evaluate_sequence evaluated ends (by decide) "4 + 'a'").2 _ mixed
  cases aloneEq
  exact ⟨evaluated, ends, (evaluate_sequence evaluated ends (by decide) "4").1 _ four, whole,
    refused, same⟩

end Outcome

end Reckon
