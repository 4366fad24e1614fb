/-
Module: Reckon.Proofs.StringLiterals
Purpose: Every string can be written. Between two quotes of either sort a character stands for
  itself, but for the quote, the backslash and the newline, which are written with a backslash
  before them. Reading undoes one character of the string at a time, so it stays in step with the
  writing whatever the characters are.
Main exports: Quote, Quote.escape, Quote.literal, Quote.stringBody_literal, Quote.literal_readBack
-/
import Reckon.Proofs.SingleExpression

namespace Reckon

/-- The quotes that a string may stand between. -/
inductive Quote where
  | single
  | double
deriving DecidableEq, Repr, Inhabited

namespace Quote

/-- The character that a quote is. -/
def char : Quote → Char
  | .single => '\''
  | .double => '"'

/-- How a character of a string is written between two quotes. -/
def escape (quote : Quote) (c : Char) : List Char :=
  if c = quote.char ∨ c = '\\' then ['\\', c] else if c = '\n' then ['\\', 'n'] else [c]

/-- A string as it is written between two quotes. -/
def literal (quote : Quote) (s : String) : String :=
  String.ofList (quote.char :: (s.toList.flatMap quote.escape ++ [quote.char]))

theorem isQuote_char (quote : Quote) : isQuote quote.char = true := by
  cases quote <;> rfl

theorem unescape_char (quote : Quote) : unescape quote.char = quote.char := by
  cases quote <;> rfl

/-- Reading takes what one character was written as, and goes on behind it. -/
theorem stringBody_escape (quote : Quote) (c : Char) (rest : List Char) :
    stringBody quote.char (quote.escape c ++ rest) =
      (stringBody quote.char rest).push c (quote.escape c).length := by
  have noQuote : '\\' ≠ quote.char := by cases quote <;> decide
  have noNewline : quote.char ≠ '\n' := by cases quote <;> decide
  unfold escape
  split
  · next escaped =>
      rcases escaped with rfl | rfl
      · exact (Reckon.stringBody_escape rest noQuote noNewline).trans (by rw [unescape_char]; rfl)
      · exact Reckon.stringBody_escape rest noQuote (by decide)
  · next plain =>
      rw [not_or] at plain
      split
      · next newline =>
          subst newline
          exact Reckon.stringBody_escape rest noQuote (by decide)
      · next noBreak => exact stringBody_plain rest noBreak plain.1 plain.2

/-- An escaped text is read back up to the quotation mark that closes it. -/
theorem stringBody_literal (quote : Quote) (s : List Char) :
    stringBody quote.char (s.flatMap quote.escape ++ [quote.char]) =
      .ok (s, (s.flatMap quote.escape ++ [quote.char]).length) := by
  induction s with
  | nil =>
      apply stringBody_quote
      cases quote <;> decide
  | cons c s inductionHypothesis =>
      rw [List.flatMap_cons, List.append_assoc, stringBody_escape, inductionHypothesis,
        StringBody.push, Nat.add_comm, ← List.length_append]

/-- Every string has a literal between either quotes. Its text is a single token, which stands for
the string and covers the whole text; and as a program it has the string as its only value. -/
theorem literal_readBack (quote : Quote) (s : String) :
    scan (quote.literal s) =
        ⟨[⟨.string, some s, quote.literal s, ⟨0, (quote.literal s).length, 1, 1⟩⟩, .endOfInput],
          none⟩ ∧
      evaluate (quote.literal s) = .ok [.string s] := by
  have formed : Lexeme .string (some (String.ofList s.toList))
      (quote.char :: (s.toList.flatMap quote.escape ++ [quote.char])) [] :=
    .string quote.isQuote_char (quote.stringBody_literal s.toList)
  rw [String.ofList_toList] at formed
  have scanned : scan (quote.literal s) =
      ⟨[⟨.string, some s, quote.literal s, ⟨0, (quote.literal s).length, 1, 1⟩⟩, .endOfInput],
        none⟩ := by
    rw [literal, scan_of_lexeme formed, String.length_ofList]
    simp [Cursor.tokenAt, Cursor.spanOf, Cursor.start]
  have written : Grammar.Written 0 0 (.value .endOfInput (.string s))
      [⟨.string, some s, quote.literal s, ⟨0, (quote.literal s).length, 1, 1⟩⟩] := .literal rfl
  exact ⟨scanned, evaluate_of_written scanned written (Nat.zero_le _) rfl⟩

end Quote

end Reckon
