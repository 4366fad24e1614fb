/-
Module: Reckon.Proofs.LinesAndColumns
Purpose: Lines and columns, counted from the text alone, and those that the scanner reports. A
  cursor always knows the line and the column of the character behind its own: that is kept by every
  move over a character, so it holds wherever a token or a complaint begins. A newline that begins
  the text is the one that the scanner does not count: it takes it for a blank.
Main exports: LastNewline, Stands, counted, Cursor.Tracks, Cursor.Tracks.skip, Cursor.Reads.stands,
  scan_stands
-/
import Reckon.Proofs.Lexeme

namespace Reckon

/-! ### Counting lines and columns -/

/-- The newline at an offset is the last before another offset. -/
structure LastNewline (text : List Char) (offset newline : Nat) : Prop where
  before : newline < offset
  found : text[newline]? = some '\n'
  last : ∀ other, newline < other → other < offset → text[other]? ≠ some '\n'

/-- The line and the column of an offset. There is a line for each newline before it besides the
first, and columns count from the last of these newlines, or from the beginning of the text. -/
structure Stands (text : List Char) (offset : Nat) (line column : Int) : Prop where
  lineEq : line = 1 + (text.take offset).count '\n'
  columnEq : ∀ newline, LastNewline text offset newline → column = offset - newline
  firstColumnEq : (∀ other < offset, text[other]? ≠ some '\n') → column = offset + 1

section Counting

variable {text : List Char} {offset newline : Nat} {line column : Int}

/-- A character that is no newline leaves the last newline the last. -/
theorem lastNewline_succ (plain : text[offset]? ≠ some '\n') :
    LastNewline text (offset + 1) newline ↔ LastNewline text offset newline := by
  constructor
  · rintro ⟨before, found, last⟩
    have ne : newline ≠ offset := by
      rintro rfl
      exact plain found
    exact ⟨by omega, found, fun other behind upper => last other behind (by omega)⟩
  · rintro ⟨before, found, last⟩
    refine ⟨by omega, found, fun other behind upper => ?_⟩
    by_cases same : other = offset
    · subst same
      exact plain
    · exact last other behind (by omega)

theorem noNewline_succ (plain : text[offset]? ≠ some '\n') :
    (∀ other < offset + 1, text[other]? ≠ some '\n') ↔
      ∀ other < offset, text[other]? ≠ some '\n' := by
  constructor
  · exact fun none other upper => none other (by omega)
  · intro none other upper
    by_cases same : other = offset
    · subst same
      exact plain
    · exact none other (by omega)

/-- A character that is no newline adds no line. -/
theorem count_take_succ (plain : text[offset]? ≠ some '\n') :
    (text.take (offset + 1)).count '\n' = (text.take offset).count '\n' := by
  rw [List.take_add_one, List.count_append]
  cases found : text[offset]? with
  | none => rfl
  | some c =>
      have ne : c ≠ '\n' := by
        rintro rfl
        exact plain found
      simp [ne]

/-- Behind a character that is no newline the line goes on. -/
theorem stands_succ (plain : text[offset]? ≠ some '\n') :
    Stands text (offset + 1) line (column + 1) ↔ Stands text offset line column := by
  constructor
  · rintro ⟨lineEq, columnEq, firstEq⟩
    refine ⟨by rw [lineEq, count_take_succ plain], fun newline last => ?_, fun none => ?_⟩
    · have := columnEq newline ((lastNewline_succ plain).mpr last)
      omega
    · have := firstEq ((noNewline_succ plain).mpr none)
      omega
  · rintro ⟨lineEq, columnEq, firstEq⟩
    refine ⟨by rw [lineEq, count_take_succ plain], fun newline last => ?_, fun none => ?_⟩
    · have := columnEq newline ((lastNewline_succ plain).mp last)
      omega
    · have := firstEq ((noNewline_succ plain).mp none)
      omega

/-- Behind a newline the next line begins. -/
theorem Stands.behindNewline (stands : Stands text offset line column)
    (found : text[offset]? = some '\n') : Stands text (offset + 1) (line + 1) 1 := by
  constructor
  case lineEq =>
    rw [stands.lineEq, List.take_add_one, List.count_append, found]
    simp
    omega
  case columnEq =>
    intro newline last
    have upper := last.before
    have same : newline = offset := by
      by_contra ne
      exact last.last offset (by omega) (by omega) found
    omega
  case firstColumnEq => exact fun none => absurd found (none offset (by omega))

/-- Before an offset there is a last newline, or none at all. -/
theorem exists_lastNewline (text : List Char) (offset : Nat) :
    (∃ newline, LastNewline text offset newline) ∨ ∀ other < offset, text[other]? ≠ some '\n' := by
  induction offset with
  | zero => exact .inr fun other upper => absurd upper (Nat.not_lt_zero _)
  | succ offset inductionHypothesis =>
      by_cases found : text[offset]? = some '\n'
      · exact .inl ⟨offset, by omega, found, fun other behind upper => by omega⟩
      · rcases inductionHypothesis with ⟨newline, last⟩ | none
        · exact .inl ⟨newline, (lastNewline_succ found).mpr last⟩
        · exact .inr ((noNewline_succ found).mpr none)

/-- Lines and columns are counted from one. -/
theorem Stands.one_le (stands : Stands text offset line column) : 1 ≤ line ∧ 1 ≤ column := by
  constructor
  · have := stands.lineEq
    omega
  · rcases exists_lastNewline text offset with ⟨newline, last⟩ | none
    · have := stands.columnEq newline last
      have := last.before
      omega
    · have := stands.firstColumnEq none
      omega

end Counting

/-! ### Newlines that the scanner counts -/

/-- A text with the newlines that the scanner counts: one at its very beginning is a blank. -/
def counted (text : List Char) : List Char :=
  if text.head? = some '\n' then ' ' :: text.tail else text

/-- All newlines are counted in a text that does not begin with one. -/
theorem counted_of_head? {text : List Char} (plain : text.head? ≠ some '\n') :
    counted text = text :=
  if_neg plain

theorem getElem?_counted_zero (text : List Char) : (counted text)[0]? ≠ some '\n' := by
  unfold counted
  split
  · simp
  · next plain => simpa [List.head?_eq_getElem?] using plain

/-- Behind the first character, the counted text is the text. -/
theorem getElem?_counted_succ (text : List Char) (offset : Nat) :
    (counted text)[offset + 1]? = text[offset + 1]? := by
  unfold counted
  split
  · cases text <;> simp
  · rfl

/-! ### Cursors -/

namespace Cursor

/-- A cursor is at its offset in a text, and knows where the character behind its own stands. -/
structure Tracks (text : List Char) (c : Cursor) : Prop where
  rest : c.rest = text.drop c.offset
  behind : Stands (counted text) (c.offset + 1) c.line (c.column + 1)

variable {text : List Char} {c : Cursor}

/-- At the start, a cursor is where it counts itself to be. -/
theorem tracks_start (text : List Char) : (start text).Tracks text where
  rest := rfl
  behind := by
    have beginning : Stands (counted text) 0 1 1 :=
      ⟨rfl, fun _ last => absurd last.before (Nat.not_lt_zero _), fun _ => rfl⟩
    exact (stands_succ (getElem?_counted_zero text)).mpr beginning

/-- The character behind that of a cursor. -/
theorem Tracks.getElem?_succ (tracks : c.Tracks text) :
    (counted text)[c.offset + 1]? = c.rest[1]? := by
  rw [getElem?_counted_succ, tracks.rest, List.getElem?_drop]

/-- A step keeps the count right. -/
theorem Tracks.next (tracks : c.Tracks text) : c.next.Tracks text := by
  have restEq : c.rest.drop 1 = text.drop (c.offset + 1) := by rw [tracks.rest, List.drop_drop]
  have following := tracks.getElem?_succ
  unfold Cursor.next
  -- The three ways on: the text has ended, a newline follows, or another character or the end does.
  split
  · exact tracks
  · next first rest parts =>
      rw [parts] at restEq following
      exact ⟨restEq, tracks.behind.behindNewline following⟩
  · next first rest noNewline parts =>
      rw [parts] at restEq following
      have plain : (counted text)[c.offset + 1]? ≠ some '\n' := by
        rw [following]
        intro found
        cases rest with
        | nil => cases found
        | cons second others =>
            cases found
            exact noNewline others rfl
      exact ⟨restEq, (stands_succ plain).mpr tracks.behind⟩

/-- Several steps keep the count right. -/
theorem Tracks.skip (tracks : c.Tracks text) (n : Nat) : (c.skip n).Tracks text := by
  induction n generalizing c with
  | zero => exact tracks
  | succ n inductionHypothesis => exact inductionHypothesis tracks.next

/-- A cursor at a character that is no newline knows where this one stands. -/
theorem Tracks.stands (tracks : c.Tracks text) {head : Char} (found : c.rest[0]? = some head)
    (plain : head ≠ '\n') : Stands (counted text) c.offset c.line c.column := by
  apply (stands_succ ?_).mp tracks.behind
  cases offsetEq : c.offset with
  | zero => exact getElem?_counted_zero text
  | succ offset =>
      rw [tracks.rest, List.getElem?_drop, offsetEq] at found
      rw [getElem?_counted_succ, ← Nat.add_zero (offset + 1), found]
      simpa using plain

end Cursor

/-! ### Readings -/

/-- A span begins at an offset of the text, and has its line and column. -/
def Span.StandsIn (text : List Char) (span : Span) : Prop :=
  ∃ offset : Nat, span.start = offset ∧ Stands (counted text) offset span.line span.column

/-- No token begins with a newline. -/
theorem ne_newline_of_beginsToken {c : Char} (begins : beginsToken c = true) : c ≠ '\n' := by
  rintro rfl
  exact absurd begins (by decide)

namespace Cursor

variable {text passed lexeme rest : List Char} {c : Cursor}

@[simp] theorem line_tokenAt (kind : TokenKind) (value : Option String) (lexeme : List Char) :
    (c.tokenAt kind value lexeme).span.line = c.line := by
  unfold tokenAt
  split <;> rfl

@[simp] theorem column_tokenAt (kind : TokenKind) (value : Option String) (lexeme : List Char) :
    (c.tokenAt kind value lexeme).span.column = c.column := by
  unfold tokenAt
  split <;> rfl

/-- The cursor counts right at the first character of a token. -/
theorem Tracks.stands_of_head {head : Char} {tail : List Char} (tracks : c.Tracks text)
    (parts : c.rest = passed ++ head :: tail) (begins : beginsToken head = true) :
    Stands (counted text) (c.skip passed.length).offset (c.skip passed.length).line
      (c.skip passed.length).column :=
  (tracks.skip passed.length).stands (by rw [rest_skip_passed parts]; rfl)
    (ne_newline_of_beginsToken begins)

/-- The tokens of a reading, and the complaint that ends it, have the lines and columns of their
places. -/
theorem Reads.stands {scanned : Scanned} (reads : c.Reads scanned) (tracks : c.Tracks text) :
    (∀ word ∈ scanned.tokens, word.span.StandsIn text) ∧
      ∀ diagnostic ∈ scanned.complaint?, diagnostic.span.StandsIn text := by
  induction reads with
  | nothing _ => simp
  | @malformed c passed lexeme rest complaint parts _ broken =>
      obtain ⟨head, tail, rfl, begins, _⟩ := broken.lexHead_eq
      refine ⟨by simp, ?_⟩
      rintro diagnostic ⟨⟩
      exact ⟨_, rfl, tracks.stands_of_head parts begins⟩
  | @token c passed lexeme rest kind value others parts _ formed _ inductionHypothesis =>
      obtain ⟨behind, complaint⟩ := inductionHypothesis ((tracks.skip _).skip _)
      refine ⟨fun word member => ?_, complaint⟩
      rcases List.mem_cons.mp member with rfl | later
      · obtain ⟨head, tail, rfl, begins, _⟩ := formed.lexHead_eq
        refine ⟨_, start_tokenAt _ _ _ _, ?_⟩
        rw [line_tokenAt, column_tokenAt]
        exact tracks.stands_of_head parts begins
      · exact behind word later

end Cursor

/-- Every token but the last, and the complaint if there is one, begins at the offset `p` where its
span starts, and has the line and the column of `p`: one more line than there are newlines before
`p`, and the distance to the last of them, or `p + 1` where there is none. Of a text that begins
with a newline this one does not count; of all others every newline does. -/
theorem scan_stands (source : String) (span : Span)
    (reported : (∃ word ∈ (scan source).tokens, word.kind ≠ .endOfInput ∧ word.span = span) ∨
      ∃ diagnostic ∈ (scan source).complaint?, diagnostic.span = span) :
    ∃ p : Nat, span.start = p ∧ Stands (counted source.toList) p span.line span.column ∧
      (source.toList.head? ≠ some '\n' → Stands source.toList p span.line span.column) := by
  have placed : span.StandsIn source.toList := by
    obtain ⟨words, complaint⟩ :=
      (Cursor.start source.toList).reads_tokens.stands (Cursor.tracks_start source.toList)
    rw [scan_eq] at reported
    rcases reported with ⟨word, member, notLast, rfl⟩ | ⟨diagnostic, member, rfl⟩
    · rcases List.mem_append.mp member with earlier | last
      · exact words word earlier
      · rw [List.mem_singleton.mp last] at notLast
        exact absurd rfl notLast
    · exact complaint diagnostic member
  obtain ⟨p, startEq, stands⟩ := placed
  refine ⟨p, startEq, stands, fun plain => ?_⟩
  rw [counted_of_head? plain] at stands
  exact stands

/-- A malformed number on the third line, behind a comment. -/
theorem scan_stands_thirdLine :
    (scan "1 # one\n\n 2.3.4").complaint? = some ⟨.malformedNumber, ⟨10, 15, 3, 2⟩⟩ ∧
      Stands "1 # one\n\n 2.3.4".toList 10 3 2 := by
  have complained : (scan "1 # one\n\n 2.3.4").complaint? =
      some ⟨.malformedNumber, ⟨10, 15, 3, 2⟩⟩ := by
    decide +kernel
  obtain ⟨p, startEq, _, stands⟩ := scan_stands "1 # one\n\n 2.3.4" ⟨10, 15, 3, 2⟩
    (.inr ⟨_, complained, rfl⟩)
  obtain rfl : p = 10 := Int.ofNat.inj startEq.symm
  exact ⟨complained, stands (by decide)⟩

/-- A newline that begins the text is not counted: what stands behind it is said to be on the first
line. -/
theorem scan_leadingNewline :
    ⟨.integer, some "1", "1", ⟨1, 2, 1, 2⟩⟩ ∈ (scan "\n1").tokens ∧
      ¬ Stands "\n1".toList 1 1 2 := by
  constructor
  · decide +kernel
  · intro stands
    exact absurd stands.lineEq (by decide)

end Reckon
