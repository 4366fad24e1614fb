/-
Module: Reckon.Proofs.Worded
Purpose: The words of a text, told without places. Where a lexeme stands matters to its form only
  through the character behind it, and a character that goes on with no lexeme may stand there in
  place of any other. So the words of a text can be found again in texts that space them otherwise.
Main exports: Worded, Worded.scan_words, worded_scan, Separates, Lexeme.followedBy,
  Lexeme.beforeNewline, Worded.prepend
-/
import Reckon.Proofs.Lexeme
import Reckon.Proofs.ReaderAgreement

namespace Reckon

/-! ### Words without places -/

/-- A text is made of words, and ends with a malformed lexeme if there is a complaint. -/
inductive Worded : List Char → List Word → Option Complaint → Prop where
  | nothing {text : List Char} {after : Bool} (passes : Passes false text after) :
      Worded text [] none
  | malformed {passed lexeme rest : List Char} {complaint : Complaint}
      (passes : Passes false passed false)
      (broken : Malformed complaint lexeme rest) : Worded (passed ++ (lexeme ++ rest)) []
        (some complaint)
  | word {passed lexeme rest : List Char} {kind : TokenKind} {value : Option String}
      {words : List Word} {complaint? : Option Complaint} (passes : Passes false passed false)
      (formed : Lexeme kind value lexeme rest) (onward : Worded rest words complaint?) :
      Worded (passed ++ (lexeme ++ rest)) (⟨kind, value, String.ofList lexeme⟩ :: words) complaint?

/-- A reading has the words of its text. -/
theorem Cursor.Reads.worded {c : Cursor} {scanned : Scanned} (reads : c.Reads scanned) :
    Worded c.rest (scanned.tokens.map Token.word)
      (scanned.complaint?.map Diagnostic.complaint) := by
  induction reads with
  | nothing passes => exact .nothing passes
  | malformed parts passes broken =>
      rw [parts]
      exact .malformed passes broken
  | @token c passed lexeme rest kind value others parts passes formed _ inductionHypothesis =>
      rw [Cursor.rest_skip_passed (Cursor.rest_skip_passed parts)] at inductionHypothesis
      rw [parts]
      exact .word passes formed inductionHypothesis

/-- The words of a text are read wherever it begins. -/
theorem Worded.exists_reads {text : List Char} {words : List Word} {complaint? : Option Complaint}
    (worded : Worded text words complaint?) {c : Cursor} (here : c.rest = text) :
    ∃ scanned, c.Reads scanned ∧ scanned.tokens.map Token.word = words ∧
      scanned.complaint?.map Diagnostic.complaint = complaint? := by
  induction worded generalizing c with
  | nothing passes => exact ⟨_, .nothing (here ▸ passes), rfl, rfl⟩
  | malformed passes broken => exact ⟨_, .malformed here passes broken, rfl, rfl⟩
  | word passes formed _ inductionHypothesis =>
      obtain ⟨others, reads, wordsEq, complaintEq⟩ :=
        inductionHypothesis (Cursor.rest_skip_passed (Cursor.rest_skip_passed here))
      refine ⟨_, .token here passes formed reads, ?_, complaintEq⟩
      rw [← wordsEq]
      rfl

/-- The words of a text are those that the scanner finds. -/
theorem Worded.scan_words {source : String} {words : List Word} {complaint? : Option Complaint}
    (worded : Worded source.toList words complaint?) :
    (scan source).tokens.map Token.word = words ++ [Token.endOfInput.word] ∧
      (scan source).complaint?.map Diagnostic.complaint = complaint? := by
  obtain ⟨scanned, reads, wordsEq, complaintEq⟩ :=
    worded.exists_reads (c := .start source.toList) rfl
  rw [scan_eq, reads.tokens_eq, List.map_append, wordsEq]
  exact ⟨rfl, complaintEq⟩

/-- A scan has the words of its text. -/
theorem worded_scan (source : String) :
    Worded source.toList ((scan source).tokens.dropLast.map Token.word)
      ((scan source).complaint?.map Diagnostic.complaint) := by
  rw [scan_eq, List.dropLast_concat]
  exact (Cursor.start source.toList).reads_tokens.worded

/-! ### What may stand behind a lexeme -/

/-- A character that goes on with no lexeme. -/
structure Separates (c : Char) : Prop where
  number : continuesNumber c = false
  name : continuesName c = false
  symbol : ∀ first, symbolPair? first c = none

/-- The characters that layout is made of outside its comments. -/
def blanks : List Char :=
  [' ', '\t', '\r', '\n']

theorem separates_of_mem {c : Char} (member : c ∈ '#' :: blanks) : Separates c := by
  have classes : continuesNumber c = false ∧ continuesName c = false := by
    simp only [blanks, List.mem_cons, List.not_mem_nil, or_false] at member
    rcases member with rfl | rfl | rfl | rfl | rfl <;> decide
  refine ⟨classes.1, classes.2, fun first => ?_⟩
  cases known : symbolPair? first c with
  | none => rfl
  | some kind =>
      unfold symbolPair? at known
      split at known <;> cases known
      all_goals exact absurd member (by decide)

/-- A lexeme is one before any text that begins as the text behind it did, or with a separating
character. -/
theorem Lexeme.followedBy {kind : TokenKind} {value : Option String} {lexeme rest other : List Char}
    (formed : Lexeme kind value lexeme rest)
    (follows : ∀ c ∈ other.head?, c ∈ rest.head? ∨ Separates c) :
    Lexeme kind value lexeme other := by
  have longest : ∀ {ofClass : Char → Bool} {run : List Char},
      (∀ c, Separates c → ofClass c = false) → LongestRun ofClass run rest →
        LongestRun ofClass run other := by
    intro ofClass run separate before
    refine ⟨before.goesOn, fun c member => ?_⟩
    rcases follows c member with old | separates
    · exact before.ends c old
    · exact separate c separates
  cases formed with
  | symbol known alone =>
      refine .symbol known fun next member => ?_
      rcases follows next member with old | separates
      · exact alone next old
      · exact separates.symbol _
  | pair known => exact .pair known
  | number digit run points =>
      exact .number digit (longest (fun _ separates => separates.number) run) points
  | name begins run => exact .name begins (longest (fun _ separates => separates.name) run)
  | string opens closed => exact .string opens closed

/-- A lexeme stays what it is when the text goes on with a new line. -/
theorem Lexeme.beforeNewline {kind : TokenKind} {value : Option String} {lexeme rest : List Char}
    (formed : Lexeme kind value lexeme rest) (more : List Char) :
    Lexeme kind value lexeme (rest ++ '\n' :: more) := by
  refine formed.followedBy fun c member => ?_
  -- The newline stands behind this lexeme only if nothing did.
  cases rest with
  | nil =>
      cases member
      exact .inr (separates_of_mem (by decide))
  | cons => exact .inl member

/-- What is passed over before a text leaves its words as they are. -/
theorem Worded.prepend {gap text : List Char} {words : List Word} {complaint? : Option Complaint}
    (passes : Passes false gap false) (worded : Worded text words complaint?) :
    Worded (gap ++ text) words complaint? := by
  cases worded with
  | nothing onward => exact .nothing (passes.append onward)
  | malformed onward broken =>
      rw [← List.append_assoc]
      exact .malformed (passes.append onward) broken
  | word onward formed rest =>
      rw [← List.append_assoc]
      exact .word (passes.append onward) formed rest

end Reckon
