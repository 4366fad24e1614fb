/-
Module: Reckon.Proofs.LayoutIndependence
Purpose: The layout of a program has no meaning. Blanks and comments may stand before, between and
  behind the lexemes of a program, as many as one likes, so long as there is something between any
  two: the text has the same words, and the program comes to the same.
Main exports: Layout, Layout.passes, Spacing, Spacing.text, Worded.spaced, Spacing.sameOutcome
-/
import Reckon.Proofs.SpanErasure
import Reckon.Proofs.Worded

namespace Reckon

/-! ### Layout -/

/-- Blanks, and comments with the newlines that end them. -/
inductive Layout : List Char → Prop where
  | nil : Layout []
  | blank {c : Char} {rest : List Char} (isBlank : c ∈ blanks) (onward : Layout rest) :
      Layout (c :: rest)
  | comment {text rest : List Char} (oneLine : '\n' ∉ text) (onward : Layout rest) :
      Layout ('#' :: (text ++ '\n' :: rest))

/-- A comment is passed over up to its newline, and what follows it then. -/
theorem passes_comment {text rest : List Char} {after : Bool} (oneLine : '\n' ∉ text)
    (onward : Passes false rest after) : Passes true (text ++ '\n' :: rest) after := by
  induction text with
  | nil => exact .inside onward
  | cons c text inductionHypothesis =>
      rw [List.mem_cons, not_or] at oneLine
      have noNewline : (c != '\n') = true := by
        simpa using Ne.symm oneLine.1
      apply Passes.inside
      rw [noNewline]
      exact inductionHypothesis oneLine.2

/-- Layout is passed over, and no comment is open behind it. -/
theorem Layout.passes {gap : List Char} (layout : Layout gap) : Passes false gap false := by
  induction layout with
  | nil => exact .nil
  | @blank c rest isBlank _ inductionHypothesis =>
      have plain : beginsToken c = false ∧ (c == '#') = false := by
        simp only [blanks, List.mem_cons, List.not_mem_nil, or_false] at isBlank
        rcases isBlank with rfl | rfl | rfl | rfl <;> decide
      apply Passes.outside plain.1
      rw [plain.2]
      exact inductionHypothesis
  | comment oneLine _ inductionHypothesis =>
      exact .outside (by decide) (passes_comment oneLine inductionHypothesis)

/-- Whatever layout begins with ends a lexeme. -/
theorem Layout.separates {gap : List Char} (layout : Layout gap) :
    ∀ c ∈ gap.head?, Separates c := by
  intro c member
  cases layout with
  | nil => cases member
  | blank isBlank _ =>
      cases member
      exact separates_of_mem (List.mem_cons_of_mem _ isBlank)
  | comment _ _ =>
      cases member
      exact separates_of_mem List.mem_cons_self

/-! ### Spaced lexemes -/

/-- Lexemes with the layout behind each of them, and the layout before the first. Only behind the
last one, and before the first, there may be none. -/
structure Spacing where
  before : List Char
  pieces : List (String × List Char)
  leading : Layout before
  between : ∀ piece ∈ pieces, Layout piece.2
  apart : ∀ piece ∈ pieces.dropLast, piece.2 ≠ []

namespace Spacing

/-- The lexemes in their order. -/
def lexemes (s : Spacing) : List String :=
  s.pieces.map Prod.fst

/-- The characters of lexemes and layout in turn. -/
def chars (s : Spacing) : List Char :=
  s.before ++ s.pieces.flatMap fun piece => piece.1.toList ++ piece.2

/-- The text that lexemes and layout make up. -/
def text (s : Spacing) : String :=
  String.ofList s.chars

end Spacing

/-- What is left behind the first lexeme is spaced again. The layout behind that lexeme is now the
first; unless it was the last lexeme, there is some. -/
theorem Spacing.exists_behind {s : Spacing} {lexeme : String} {lexemes : List String}
    (first : s.lexemes = lexeme :: lexemes) :
    ∃ behind : Spacing, behind.lexemes = lexemes ∧
      s.chars = s.before ++ (lexeme.toList ++ behind.chars) ∧
      ∀ c ∈ behind.chars.head?, Separates c := by
  obtain ⟨before, pieces, leading, between, apart⟩ := s
  obtain ⟨⟨_, gap⟩, others, rfl, rfl, rfl⟩ := List.map_eq_cons_iff.mp first
  have layout : Layout gap := between _ List.mem_cons_self
  have apartOthers : ∀ piece ∈ others.dropLast, piece.2 ≠ [] := by
    intro piece member
    cases others with
    | nil => cases member
    | cons => exact apart piece (List.mem_cons_of_mem _ member)
  refine ⟨⟨gap, others, layout, fun piece member => between piece (List.mem_cons_of_mem _ member),
    apartOthers⟩, rfl, by simp [chars], ?_⟩
  intro c member
  -- With no layout behind it, the lexeme is the last, and the text ends.
  cases gap with
  | cons head tail => exact layout.separates c member
  | nil =>
      cases others with
      | nil => cases member
      | cons => exact absurd rfl (apart _ List.mem_cons_self)

/-- The words of a text are found again in every text that spaces its lexemes otherwise. -/
theorem Worded.spaced {text : List Char} {words : List Word} (worded : Worded text words none)
    {s : Spacing} (same : s.lexemes = words.map Word.lexeme) : Worded s.chars words none := by
  generalize complaintEq : (none : Option Complaint) = complaint? at worded
  induction worded generalizing s with
  | nothing _ =>
      have noPieces : s.pieces = [] := List.map_eq_nil_iff.mp same
      rw [Spacing.chars, noPieces]
      exact .nothing (by simpa using s.leading.passes)
  | malformed => cases complaintEq
  | word _ formed _ inductionHypothesis =>
      obtain ⟨behind, lexemesEq, charsEq, separates⟩ := Spacing.exists_behind same
      rw [charsEq, String.toList_ofList]
      exact .word s.leading.passes (formed.followedBy fun c member => .inr (separates c member))
        (inductionHypothesis lexemesEq complaintEq)

/-- However the lexemes of a text without a complaint are spaced, the scanner finds the same words
and has no complaint, and the program has the same values or is refused with the same complaint. -/
theorem Spacing.sameOutcome {source : String} (clean : (scan source).complaint? = none)
    (s : Spacing) (same : s.lexemes = (scan source).tokens.dropLast.map Token.lexeme) :
    (scan s.text).complaint? = none ∧
      (scan s.text).tokens.map Token.word = (scan source).tokens.map Token.word ∧
      SameOutcome (evaluate s.text) (evaluate source) := by
  have worded := worded_scan source
  rw [clean, Option.map_none] at worded
  obtain ⟨sourceWords, _⟩ := worded.scan_words
  have lexemesEq : s.lexemes = ((scan source).tokens.dropLast.map Token.word).map Word.lexeme := by
    rw [same, List.map_map]
    rfl
  have spaced : Worded s.text.toList ((scan source).tokens.dropLast.map Token.word) none := by
    rw [Spacing.text, String.toList_ofList]
    exact worded.spaced lexemesEq
  obtain ⟨spacedWords, spacedClean⟩ := spaced.scan_words
  have sameWords : (scan s.text).tokens.map Token.word = (scan source).tokens.map Token.word := by
    rw [spacedWords, sourceWords]
  refine ⟨Option.map_eq_none_iff.mp spacedClean, sameWords, ?_⟩
  apply sameOutcome_of_words _ sameWords
  rw [spacedClean, clean, Option.map_none]

/-- The lexemes of `-7//2??'b'`, spaced by blanks and comments. -/
def spacedQuotient : Spacing where
  before := "# 7\n".toList
  pieces := [("-", " ".toList), ("7", "\n".toList), ("//", "\t".toList), ("2", " #?\r'\n".toList),
    ("??", "\r".toList), ("'b'", [])]
  leading := .comment (show '\n' ∉ " 7".toList by decide) .nil
  between := by
    intro piece member
    simp only [List.mem_cons, List.not_mem_nil, or_false] at member
    rcases member with rfl | rfl | rfl | rfl | rfl | rfl
    · exact .blank (by decide) .nil
    · exact .blank (by decide) .nil
    · exact .blank (by decide) .nil
    · exact .blank (by decide) (.comment (show '\n' ∉ "?\r'".toList by decide) .nil)
    · exact .blank (by decide) .nil
    · exact .nil
  apart := by decide

/-- A comment, blanks and a newline between the lexemes of a program change nothing. -/
theorem sameOutcome_spacedQuotient :
    (scan "-7//2??'b'").complaint? = none ∧
      spacedQuotient.lexemes = (scan "-7//2??'b'").tokens.dropLast.map Token.lexeme ∧
      (scan spacedQuotient.text).complaint? = none ∧
      (scan spacedQuotient.text).tokens.map Token.word = (scan "-7//2??'b'").tokens.map Token.word ∧
      SameOutcome (evaluate spacedQuotient.text) (evaluate "-7//2??'b'") := by
  have clean : (scan "-7//2??'b'").complaint? = none := by decide +kernel
  have same : spacedQuotient.lexemes = (scan "-7//2??'b'").tokens.dropLast.map Token.lexeme := by
    decide +kernel
  exact ⟨clean, same, Spacing.sameOutcome clean spacedQuotient same⟩

end Reckon
