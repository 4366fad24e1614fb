/-
Module: Reckon.Proofs.LineBreaks
Purpose: Texts one line after another. No lexeme goes on over a newline, and a lexeme that is
  malformed where the text ends is malformed in the same way where a line ends. So what the scanner
  finds in a text it finds again when more lines follow; unless it has complained by then, it finds
  in these what they hold by themselves, further on.
Main exports: Malformed.beforeNewline, Scanned.andThen, Cursor.Continues, Cursor.Reads.newline,
  Span.Moved, Scanned.Moved, Cursor.Moved, Cursor.Reads.exists_moved, scan_newline
-/
import Mathlib.Data.List.Forall2
import Reckon.Proofs.LinesAndColumns
import Reckon.Proofs.Sequencing

namespace Reckon

/-! ### Malformed lexemes before a newline -/

/-- A string that breaks off at the end of a text breaks off in the same place at the end of a
line. -/
theorem stringBody_error_newline {quote : Char} {text : List Char} {length : Nat}
    (broken : stringBody quote text = .error length) (more : List Char) :
    stringBody quote (text ++ '\n' :: more) = .error length := by
  fun_induction stringBody quote text generalizing length with
  | case1 | case2 =>
      cases broken
      rw [stringBody.eq_def]
      rfl
  | case3 => cases broken
  | case4 _ noQuote =>
      cases broken
      simp [stringBody, noQuote]
  | case5 _ _ noQuote =>
      cases broken
      simp [stringBody, noQuote]
  | case6 escaped rest noEscapedNewline _ noQuote inductionHypothesis =>
      obtain ⟨shorter, brokenRest, rfl⟩ := StringBody.push_eq_error broken
      rw [List.cons_append, List.cons_append, stringBody_escape _ noQuote noEscapedNewline,
        inductionHypothesis brokenRest]
      rfl
  | case7 c rest noNewline noQuote noBackslash inductionHypothesis =>
      obtain ⟨shorter, brokenRest, rfl⟩ := StringBody.push_eq_error broken
      rw [List.cons_append, stringBody_plain _ noNewline noQuote noBackslash,
        inductionHypothesis brokenRest]
      rfl

/-- A malformed lexeme stays one, and of the same length, when the text goes on with a new line. -/
theorem Malformed.beforeNewline {complaint : Complaint} {lexeme rest : List Char}
    (broken : Malformed complaint lexeme rest) (more : List Char) :
    Malformed complaint lexeme (rest ++ '\n' :: more) := by
  cases broken with
  | number digit longest points =>
      refine .number digit ⟨longest.goesOn, fun c member => ?_⟩ points
      cases rest with
      | nil =>
          cases member
          decide
      | cons => exact longest.ends c member
  | string opens unclosed =>
      refine .string opens ?_
      rw [← List.append_assoc]
      exact stringBody_error_newline unclosed more

/-! ### More lines behind a text -/

/-- What is found in two texts, the second behind the first. A complaint about the first ends the
search. -/
def Scanned.andThen (first second : Scanned) : Scanned :=
  match first.complaint? with
  | some _ => first
  | none => ⟨first.tokens ++ second.tokens, second.complaint?⟩

/-- Behind a complaint nothing is scanned. -/
theorem Scanned.andThen_of_some {first : Scanned} {diagnostic : Diagnostic}
    (complained : first.complaint? = some diagnostic) (second : Scanned) :
    first.andThen second = first := by
  simp only [andThen, complained]

/-- Without a complaint the tokens of both texts follow each other. -/
theorem Scanned.andThen_of_none {first : Scanned} (clean : first.complaint? = none)
    (second : Scanned) :
    first.andThen second = ⟨first.tokens ++ second.tokens, second.complaint?⟩ := by
  simp only [andThen, clean]

theorem Scanned.andThen_cons (token : Token) (first second : Scanned) :
    Scanned.andThen ⟨token :: first.tokens, first.complaint?⟩ second =
      ⟨token :: (first.andThen second).tokens, (first.andThen second).complaint?⟩ := by
  obtain ⟨tokens, complaint?⟩ := first
  cases complaint? <;> rfl

namespace Cursor

theorem skip_skip (m n : Nat) (c : Cursor) : (c.skip m).skip n = c.skip (m + n) := by
  induction m generalizing c with
  | zero => rw [skip, Nat.zero_add]
  | succ m inductionHypothesis => rw [skip, inductionHypothesis, Nat.succ_add, skip]

section Moves

variable {c : Cursor} {first : Char} {others : List Char}

/-- A step onto a newline begins a line. -/
theorem next_of_newline (parts : c.rest = first :: '\n' :: others) :
    c.next = ⟨'\n' :: others, c.offset + 1, c.line + 1, 0⟩ := by
  simp only [next, parts]

/-- Any other step stays on its line. -/
theorem next_of_plain (parts : c.rest = first :: others) (plain : others.head? ≠ some '\n') :
    c.next = ⟨others, c.offset + 1, c.line, c.column + 1⟩ := by
  unfold next
  split
  · next ended =>
      rw [ended] at parts
      cases parts
  · next newline =>
      rw [newline] at parts
      cases parts
      exact absurd rfl plain
  · next split =>
      rw [split] at parts
      cases parts
      rfl

end Moves

/-- A cursor at the same place in a text that goes on, with a new line, where the other ends. At the
end itself the two may stand differently, since the longer text begins a line there. -/
structure Continues (more : List Char) (c longer : Cursor) : Prop where
  rest : longer.rest = c.rest ++ '\n' :: more
  offset : longer.offset = c.offset
  place : c.rest ≠ [] → longer.line = c.line ∧ longer.column = c.column

/-- At its start, a text continues into the longer one. -/
theorem continues_start (text more : List Char) :
    Continues more (start text) (start (text ++ '\n' :: more)) :=
  ⟨rfl, rfl, fun _ => ⟨rfl, rfl⟩⟩

section Continues

variable {more : List Char} {c longer : Cursor}

/-- A step within the text keeps what follows it. -/
theorem Continues.next (continues : Continues more c longer) (inside : c.rest ≠ []) :
    Continues more c.next longer.next := by
  obtain ⟨lineEq, columnEq⟩ := continues.place inside
  have restEq := continues.rest
  obtain ⟨first, others, parts⟩ := List.exists_cons_of_ne_nil inside
  rw [parts, List.cons_append] at restEq
  by_cases newline : others.head? = some '\n'
  · obtain ⟨behind, rfl⟩ := List.head?_eq_some_iff.mp newline
    rw [next_of_newline parts, next_of_newline restEq]
    exact ⟨rfl, congrArg (· + 1) continues.offset, fun _ => ⟨congrArg (· + 1) lineEq, rfl⟩⟩
  · rw [next_of_plain parts newline]
    cases others with
    | nil =>
        rw [next_of_newline restEq]
        exact ⟨rfl, congrArg (· + 1) continues.offset, fun inside => absurd rfl inside⟩
    | cons second behind =>
        rw [next_of_plain restEq newline]
        exact ⟨rfl, congrArg (· + 1) continues.offset,
          fun _ => ⟨lineEq, congrArg (· + 1) columnEq⟩⟩

/-- Several steps within the text keep what follows it. -/
theorem Continues.skip (continues : Continues more c longer) {n : Nat}
    (within : n ≤ c.rest.length) : Continues more (c.skip n) (longer.skip n) := by
  induction n generalizing c longer with
  | zero => exact continues
  | succ n inductionHypothesis =>
      have inside : c.rest ≠ [] := List.ne_nil_of_length_pos (by omega)
      refine inductionHypothesis (continues.next inside) ?_
      rw [rest_next, List.length_drop]
      omega

/-- Before its end the two cursors make the same spans and tokens of a lexeme. -/
theorem Continues.spanOf_eq (continues : Continues more c longer) (inside : c.rest ≠ [])
    (length : Nat) : longer.spanOf length = c.spanOf length := by
  obtain ⟨lineEq, columnEq⟩ := continues.place inside
  simp only [spanOf, continues.offset, lineEq, columnEq]

/-- A token within the text is the same in the longer one. -/
theorem Continues.tokenAt_eq (continues : Continues more c longer) (inside : c.rest ≠ [])
    (kind : TokenKind) (value : Option String) (lexeme : List Char) :
    longer.tokenAt kind value lexeme = c.tokenAt kind value lexeme := by
  obtain ⟨lineEq, columnEq⟩ := continues.place inside
  simp only [tokenAt, pointSpan, continues.spanOf_eq inside, continues.offset, lineEq, columnEq]

end Continues

/-- What is passed over before a place leaves the reading from there on as it is. -/
theorem Reads.prepend {c : Cursor} {gap text : List Char} {scanned : Scanned}
    (parts : c.rest = gap ++ text) (passes : Passes false gap false)
    (reads : (c.skip gap.length).Reads scanned) : c.Reads scanned := by
  have restEq := rest_skip_passed parts
  generalize hereEq : c.skip gap.length = here at reads restEq
  cases reads with
  | nothing onward =>
      rw [restEq] at onward
      exact .nothing (parts ▸ passes.append onward)
  | malformed split onward broken =>
      subst hereEq
      rw [restEq] at split
      rw [split, ← List.append_assoc] at parts
      rw [skip_skip, ← List.length_append]
      exact .malformed parts (passes.append onward) broken
  | token split onward formed behind =>
      subst hereEq
      rw [restEq] at split
      rw [split, ← List.append_assoc] at parts
      rw [skip_skip gap.length, ← List.length_append] at behind ⊢
      exact .token parts (passes.append onward) formed behind

/-- The reading of a text is that of the longer one up to the newline. Behind it the longer one is
read on, unless the reading has come to a complaint. -/
theorem Reads.newline {more : List Char} {c longer : Cursor} {scanned others : Scanned}
    (reads : c.Reads scanned) (continues : Continues more c longer)
    (behind : (longer.skip (c.rest.length + 1)).Reads others) :
    longer.Reads (scanned.andThen others) := by
  induction reads generalizing longer with
  | @nothing c after passes =>
      have parts : longer.rest = c.rest ++ ['\n'] ++ more := by simp [continues.rest]
      refine Reads.prepend parts passes.newline ?_
      rw [List.length_append]
      exact behind
  | @malformed c passed lexeme rest complaint parts passes broken =>
      have partsOn : longer.rest = passed ++ (lexeme ++ (rest ++ '\n' :: more)) := by
        rw [continues.rest, parts]
        simp
      have inside : (c.skip passed.length).rest ≠ [] := by
        obtain ⟨head, tail, rfl, _⟩ := broken.lexHead_eq
        rw [rest_skip_passed parts]
        simp
      have here := continues.skip (show passed.length ≤ c.rest.length by simp [parts])
      rw [← here.spanOf_eq inside]
      exact .malformed partsOn passes (broken.beforeNewline more)
  | @token c passed lexeme rest kind value found parts passes formed _ inductionHypothesis =>
      have partsOn : longer.rest = passed ++ (lexeme ++ (rest ++ '\n' :: more)) := by
        rw [continues.rest, parts]
        simp
      have restHere := rest_skip_passed parts
      have inside : (c.skip passed.length).rest ≠ [] := by
        obtain ⟨head, tail, rfl, _⟩ := formed.lexHead_eq
        rw [restHere]
        simp
      have here := continues.skip (show passed.length ≤ c.rest.length by simp [parts])
      have after :=
        here.skip (show lexeme.length ≤ (c.skip passed.length).rest.length by simp [restHere])
      rw [Scanned.andThen_cons, ← here.tokenAt_eq inside]
      refine .token partsOn passes (formed.beforeNewline more) (inductionHypothesis after ?_)
      rw [rest_skip_passed restHere, skip_skip, skip_skip]
      have lengthEq : passed.length + lexeme.length + (rest.length + 1) = c.rest.length + 1 := by
        simp only [parts, List.length_append]
        omega
      rw [← Nat.add_assoc, lengthEq]
      exact behind

end Cursor

/-! ### The same text further on -/

/-- A span, and the span of the same piece of text where that begins `chars` characters later. Where
the number of lines between the two is given, the line is that many further down, and the column is
the same. -/
structure Span.Moved (chars : Nat) (lines? : Option Nat) (span moved : Span) : Prop where
  start : moved.start = span.start + chars
  stop : moved.stop = span.stop + chars
  line : ∀ lines ∈ lines?, moved.line = span.line + lines
  column : ∀ lines ∈ lines?, moved.column = span.column

/-- A token, and the same token further on. The end of the input is where it is. -/
structure Token.Moved (chars : Nat) (lines? : Option Nat) (token moved : Token) : Prop where
  word : moved.word = token.word
  ends : token.kind = .endOfInput → moved = token
  place : token.kind ≠ .endOfInput → token.span.Moved chars lines? moved.span

/-- A complaint, and the same complaint further on. -/
structure Diagnostic.Moved (chars : Nat) (lines? : Option Nat) (diagnostic moved : Diagnostic) :
    Prop where
  complaint : moved.complaint = diagnostic.complaint
  place : diagnostic.span.Moved chars lines? moved.span

/-- What is found in a text, and what is found in the same text further on. -/
structure Scanned.Moved (chars : Nat) (lines? : Option Nat) (scanned moved : Scanned) : Prop where
  tokens : List.Forall₂ (Token.Moved chars lines?) scanned.tokens moved.tokens
  complaint? : Option.Rel (Diagnostic.Moved chars lines?) scanned.complaint? moved.complaint?

namespace Cursor

/-- A cursor, and a cursor with the same text before it further on. -/
structure Moved (chars : Nat) (lines? : Option Nat) (c moved : Cursor) : Prop where
  rest : moved.rest = c.rest
  offset : moved.offset = c.offset + chars
  line : ∀ lines ∈ lines?, moved.line = c.line + lines
  column : ∀ lines ∈ lines?, moved.column = c.column

section Moved

variable {chars : Nat} {lines? : Option Nat} {c further : Cursor}

/-- A step keeps the distance between the two cursors. -/
theorem Moved.next (moved : Moved chars lines? c further) :
    Moved chars lines? c.next further.next := by
  have restEq := moved.rest
  have offsetNext : further.offset + 1 = c.offset + 1 + chars := by
    rw [moved.offset]
    omega
  cases parts : c.rest with
  | nil =>
      rw [parts] at restEq
      have stays : c.next = c := by simp only [Cursor.next, parts]
      have staysFurther : further.next = further := by simp only [Cursor.next, restEq]
      rw [stays, staysFurther]
      exact moved
  | cons first others =>
      rw [parts] at restEq
      by_cases newline : others.head? = some '\n'
      · obtain ⟨behind, rfl⟩ := List.head?_eq_some_iff.mp newline
        rw [next_of_newline parts, next_of_newline restEq]
        refine ⟨rfl, offsetNext, fun lines known => ?_, fun _ _ => rfl⟩
        have lineEq := moved.line lines known
        simp only
        omega
      · rw [next_of_plain parts newline, next_of_plain restEq newline]
        exact ⟨rfl, offsetNext, moved.line,
          fun lines known => congrArg (· + 1) (moved.column lines known)⟩

/-- Several steps keep the distance between the two cursors. -/
theorem Moved.skip (moved : Moved chars lines? c further) (n : Nat) :
    Moved chars lines? (c.skip n) (further.skip n) := by
  induction n generalizing c further with
  | zero => exact moved
  | succ n inductionHypothesis => exact inductionHypothesis moved.next

theorem pointSpan_eq_spanOf (c : Cursor) : c.pointSpan = c.spanOf 0 := by
  simp only [pointSpan, Span.point, Cursor.spanOf, Int.natCast_zero, Int.add_zero]

/-- A span of the same length is moved by the distance. -/
theorem Moved.spanOf (moved : Moved chars lines? c further) (length : Nat) :
    (c.spanOf length).Moved chars lines? (further.spanOf length) := by
  have offsetEq := moved.offset
  constructor
  case start =>
    simp only [Cursor.spanOf]
    omega
  case stop =>
    simp only [Cursor.spanOf]
    omega
  case line =>
    intro lines known
    simp only [Cursor.spanOf, moved.line lines known, Int.natCast_add]
  case column =>
    intro lines known
    simp only [Cursor.spanOf, moved.column lines known]

/-- A token is moved by the distance, unless it is the end of the input. -/
theorem Moved.tokenAt (moved : Moved chars lines? c further) {kind : TokenKind}
    (inside : kind ≠ .endOfInput) (value : Option String) (lexeme : List Char) :
    (c.tokenAt kind value lexeme).Moved chars lines? (further.tokenAt kind value lexeme) := by
  refine ⟨rfl, fun ended => absurd ended inside, fun _ => ?_⟩
  simp only [Cursor.tokenAt, pointSpan_eq_spanOf]
  split
  · exact moved.spanOf 0
  · exact moved.spanOf lexeme.length

/-- Wherever a text begins, the same is found in it. -/
theorem Reads.exists_moved {scanned : Scanned} (reads : c.Reads scanned)
    (moved : Moved chars lines? c further) :
    ∃ found, further.Reads found ∧ scanned.Moved chars lines? found := by
  induction reads generalizing further with
  | nothing passes => exact ⟨_, .nothing (moved.rest ▸ passes), .nil, .none⟩
  | malformed parts passes broken =>
      refine ⟨_, .malformed (moved.rest.trans parts) passes broken, .nil, .some ⟨rfl, ?_⟩⟩
      exact (moved.skip _).spanOf _
  | @token c passed lexeme rest kind value found parts passes formed _ inductionHypothesis =>
      have here := moved.skip passed.length
      obtain ⟨others, readsOthers, movedOthers⟩ := inductionHypothesis (here.skip _)
      refine ⟨_, .token (moved.rest.trans parts) passes formed readsOthers,
        .cons ?_ movedOthers.tokens, movedOthers.complaint?⟩
      exact here.tokenAt formed.form.kind_ne _ _

end Moved

/-! ### The cursor behind the newline -/

section Behind

variable (text more : List Char)

/-- The cursor behind a text and a newline. -/
def behindNewline : Cursor :=
  (start (text ++ '\n' :: more)).skip (text.length + 1)

theorem rest_behindNewline : (behindNewline text more).rest = more := by
  simp [behindNewline, rest_skip, start, List.drop_append]

theorem offset_behindNewline : (behindNewline text more).offset = text.length + 1 := by
  have within : text.length + 1 ≤ (start (text ++ '\n' :: more)).rest.length := by
    simp only [start, List.length_append, List.length_cons]
    omega
  rw [behindNewline, offset_skip within]
  exact Nat.zero_add _

/-- Behind the newline, the text stands as far on as the text before it is long. -/
theorem moved_behindNewline :
    Moved (text.length + 1) none (start more) (behindNewline text more) where
  rest := rest_behindNewline text more
  offset := (offset_behindNewline text more).trans (Nat.zero_add _).symm
  line := by simp
  column := by simp

variable {text more}

/-- The text behind the newline begins in the first column of the next line, if its first character
is not another newline. All newlines of a text count but one that begins it. -/
theorem moved_behindNewline_lines (nonempty : text ≠ []) (plain : text.head? ≠ some '\n')
    (plainMore : more.head? ≠ some '\n') :
    Moved (text.length + 1) (some (1 + text.count '\n')) (start more)
      (behindNewline text more) := by
  have headEq : (text ++ '\n' :: more).head? = text.head? :=
    List.head?_append_of_ne_nil text nonempty
  have tracks : (behindNewline text more).Tracks (text ++ '\n' :: more) := (tracks_start _).skip _
  have behind := tracks.behind
  have offsetEq := offset_behindNewline text more
  rw [counted_of_head? (by rw [headEq]; exact plain), offsetEq] at behind
  have first : (text ++ '\n' :: more)[text.length + 1]? ≠ some '\n' := by
    rw [List.getElem?_append_right (Nat.le_succ _)]
    simpa [List.head?_eq_getElem?] using plainMore
  have stands := (stands_succ first).mp behind
  have newline : LastNewline (text ++ '\n' :: more) (text.length + 1) text.length :=
    ⟨Nat.lt_succ_self _, by simp, fun other lower upper => by omega⟩
  have lineEq := stands.lineEq
  have columnEq := stands.columnEq _ newline
  have taken : (text ++ '\n' :: more).take (text.length + 1) = text ++ ['\n'] := by
    simp [List.take_append, List.take_of_length_le]
  rw [taken, List.count_append, List.count_singleton_self] at lineEq
  have moved := moved_behindNewline text more
  refine ⟨moved.rest, moved.offset, ?_, ?_⟩
  · rintro lines ⟨⟩
    simp only [start]
    omega
  · rintro lines ⟨⟩
    simp only [start]
    omega

end Behind

end Cursor

/-! ### Two texts -/

/-- What is found in a text, with the token that ends every program. -/
def Scanned.ended (scanned : Scanned) : Scanned :=
  ⟨scanned.tokens ++ [.endOfInput], scanned.complaint?⟩

theorem Scanned.Moved.ended {chars : Nat} {lines? : Option Nat} {scanned others : Scanned}
    (moved : scanned.Moved chars lines? others) :
    scanned.ended.Moved chars lines? others.ended where
  tokens := by
    apply List.rel_append moved.tokens
    exact .cons ⟨rfl, fun _ => rfl, fun inside => absurd rfl inside⟩ .nil
  complaint? := moved.complaint?

/-- What is found in a text is found again behind another. -/
theorem scan_moved {chars : Nat} {lines? : Option Nat} {v : String} {further : Cursor}
    (moved : Cursor.Moved chars lines? (.start v.toList) further) :
    (scan v).Moved chars lines? further.tokens.ended := by
  obtain ⟨found, reads, movedTokens⟩ := (Cursor.start v.toList).reads_tokens.exists_moved moved
  rw [reads.tokens_eq]
  exact movedTokens.ended

/-- A text is scanned first, and then the lines behind it, unless there was a complaint. -/
theorem scan_append_newline (u v : String) :
    scan (u ++ "\n" ++ v) =
      ((Cursor.start u.toList).tokens.andThen
        (Cursor.behindNewline u.toList v.toList).tokens).ended := by
  have textEq : (u ++ "\n" ++ v).toList = u.toList ++ '\n' :: v.toList := by
    simp [String.toList_append]
  have reads := (Cursor.start u.toList).reads_tokens.newline
    (Cursor.continues_start u.toList v.toList)
    (Cursor.behindNewline u.toList v.toList).reads_tokens
  rw [scan_eq, textEq, reads.tokens_eq]
  rfl

/-- A complaint about a text is all there is to say about it and any lines behind it: the scan is
that of the text alone. If there is none, the tokens of the text, without the end of the input, are
followed by those of the lines behind it, and these end with the complaint about them. They are the
same tokens and the same complaint, as many characters further on as the text and the newline have;
and the end of the input is where it is. If the text is not empty and neither it nor the lines
behind it begin with a newline, then all of these stand in their columns, in lines further down by
the newlines of the text and the one behind it. -/
theorem scan_newline (u v : String) :
    (∀ diagnostic ∈ (scan u).complaint?, scan (u ++ "\n" ++ v) = scan u) ∧
      ((scan u).complaint? = none → ∃ others : Scanned,
        scan (u ++ "\n" ++ v) = ⟨(scan u).tokens.dropLast ++ others.tokens, others.complaint?⟩ ∧
          (scan v).Moved (u.length + 1) none others ∧
          (u ≠ "" → u.toList.head? ≠ some '\n' → v.toList.head? ≠ some '\n' →
            (scan v).Moved (u.length + 1) (some (1 + u.toList.count '\n')) others)) := by
  constructor
  · intro diagnostic complained
    have here : (Cursor.start u.toList).tokens.complaint? = some diagnostic := complained
    rw [scan_append_newline, Scanned.andThen_of_some here]
    rfl
  · intro clean
    have here : (Cursor.start u.toList).tokens.complaint? = none := clean
    refine ⟨(Cursor.behindNewline u.toList v.toList).tokens.ended, ?_, ?_, ?_⟩
    · rw [scan_append_newline, Scanned.andThen_of_none here, scan_eq u, List.dropLast_concat]
      simp only [Scanned.ended, List.append_assoc]
    · exact scan_moved (Cursor.moved_behindNewline u.toList v.toList)
    · intro nonempty plain plainMore
      have nonempty : u.toList ≠ [] := by
        simpa [String.toList_eq_nil_iff] using nonempty
      exact scan_moved (Cursor.moved_behindNewline_lines nonempty plain plainMore)

/-- A string that breaks off behind a backslash hides the line behind it; a comment that hides a
quote does not. -/
theorem scan_newline_brokenString :
    (scan "1 'a\\").complaint? = some ⟨.unterminatedString, ⟨2, 5, 1, 3⟩⟩ ∧
      scan ("1 'a\\" ++ "\n" ++ "b'") = scan "1 'a\\" ∧
      (scan "a\n# 'b").complaint? = none ∧
      ∃ others : Scanned, scan ("a\n# 'b" ++ "\n" ++ "c 'd") =
          ⟨[⟨.identifier, some "a", "a", ⟨0, 1, 1, 1⟩⟩] ++ others.tokens, others.complaint?⟩ ∧
        (scan "c 'd").Moved 7 none others ∧ (scan "c 'd").Moved 7 (some 2) others := by
  have complained : (scan "1 'a\\").complaint? = some ⟨.unterminatedString, ⟨2, 5, 1, 3⟩⟩ := by
    decide +kernel
  have clean : (scan "a\n# 'b").complaint? = none := by decide +kernel
  have words : (scan "a\n# 'b").tokens.dropLast = [⟨.identifier, some "a", "a", ⟨0, 1, 1, 1⟩⟩] := by
    decide +kernel
  obtain ⟨others, found, moved, lines⟩ := (scan_newline "a\n# 'b" "c 'd").2 clean
  rw [words] at found
  exact ⟨complained, (scan_newline "1 'a\\" "b'").1 _ complained, clean, others, found, moved,
    lines (by decide) (by decide) (by decide)⟩

end Reckon
