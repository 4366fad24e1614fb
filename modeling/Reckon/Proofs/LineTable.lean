/-
Module: Reckon.Proofs.LineTable
Purpose: The table of lines says of each instruction which line it comes from. Spread out again, the
  runs of the table list the lines of the instructions in their order, and writing an instruction
  adds one line to that list: its own, or the last one again if it comes from no place in the text.
  No two runs in a row are of one line, so the table is as short as it can be.
Main exports: LineRun.spread, LineRun.lineAt_eq, LineRun.Pushed, LineRun.Packed, Span.Recent,
  Code.ofWrites, Code.lineAt_ofWrites
-/
import Mathlib.Algebra.Ring.Nat
import Mathlib.Data.List.Chain
import Mathlib.Data.List.Induction
import Reckon.Code

namespace Reckon

/-! ### Runs spread out -/

namespace LineRun

/-- The line of each instruction that some runs stand for. -/
def spread (runs : List LineRun) : List Int :=
  runs.flatMap fun run => List.replicate run.count run.line

@[simp] theorem spread_nil : spread [] = [] :=
  rfl

@[simp] theorem spread_cons (run : LineRun) (rest : List LineRun) :
    spread (run :: rest) = List.replicate run.count run.line ++ spread rest :=
  rfl

@[simp] theorem spread_append (runs more : List LineRun) :
    spread (runs ++ more) = spread runs ++ spread more := by
  simp [spread]

/-- Spread out, the runs have as many lines as they count. -/
theorem length_spread (runs : List LineRun) : (spread runs).length = (runs.map count).sum := by
  induction runs with
  | nil => rfl
  | cons run rest inductionHypothesis => simp [inductionHypothesis]

/-- Walking along the runs finds what stands at the index when they are spread out. -/
theorem lineAt_eq (runs : List LineRun) (index : Nat) :
    lineAt runs index = (spread runs)[index]?.getD (-1) := by
  induction runs generalizing index with
  | nil => rfl
  | cons run rest inductionHypothesis =>
      rw [lineAt, spread_cons, List.getElem?_append, List.length_replicate]
      split
      · next within => simp [within]
      · exact inductionHypothesis _

/-! ### Writing an instruction -/

/-- The line that an instruction counts for behind others: its own, or the line before if it comes
from no place in the text. -/
def lineAfter (last : Int) (span : Span) : Int :=
  if span = .endOfInput then last else span.line

/-- The line of the last run. -/
def lastLine (runs : List LineRun) : Int :=
  (runs.getLast?.map line).getD (-1)

@[simp] theorem lastLine_concat (runs : List LineRun) (run : LineRun) :
    lastLine (runs ++ [run]) = run.line := by
  simp [lastLine]

/-- An instruction joins the last run if it has no place or the same line, and begins a run
otherwise. -/
theorem push_concat (span : Span) (runs : List LineRun) (last : LineRun) :
    push span (runs ++ [last]) =
      if span = .endOfInput ∨ last.line = span.line then runs ++ [⟨last.line, last.count + 1⟩]
      else runs ++ [last] ++ [⟨span.line, 1⟩] := by
  induction runs with
  | nil => rfl
  | cons first rest inductionHypothesis =>
      -- There is a second run, so the first one stays as it is.
      obtain ⟨second, behind, split⟩ : ∃ second behind, rest ++ [last] = second :: behind :=
        List.exists_cons_of_ne_nil (by simp)
      rw [List.cons_append, split, push, ← split, inductionHypothesis, apply_ite (first :: ·)]
      rfl

/-- What one more instruction does to the runs: it lengthens the last one, or begins a run of
another line. -/
inductive Pushed (span : Span) : (before after : List LineRun) → Prop where
  | joined {runs : List LineRun} {last : LineRun}
      (sameLine : lineAfter last.line span = last.line) :
      Pushed span (runs ++ [last]) (runs ++ [⟨last.line, last.count + 1⟩])
  | begun {runs : List LineRun} (otherLine : ∀ last ∈ runs.getLast?, last.line ≠ span.line)
      (ownLine : lineAfter (lastLine runs) span = span.line) :
        Pushed span runs (runs ++ [⟨span.line, 1⟩])

/-- An instruction joins the last run or begins one. -/
theorem pushed_push (span : Span) (runs : List LineRun) : Pushed span runs (push span runs) := by
  rcases List.eq_nil_or_concat' runs with rfl | ⟨others, last, rfl⟩
  · apply Pushed.begun
    · simp
    · unfold lineAfter
      split
      · next unplaced =>
          rw [unplaced]
          rfl
      · rfl
  · rw [push_concat]
    split
    · next joins =>
        apply Pushed.joined
        unfold lineAfter
        split
        · rfl
        · next placed => exact (joins.resolve_left placed).symm
    · next begins =>
        rw [not_or] at begins
        apply Pushed.begun
        · simpa using begins.2
        · exact if_neg begins.1

section Pushed

variable {span : Span} {runs after : List LineRun}

/-- An instruction adds its line to the lines that are spread out. -/
theorem Pushed.spread_eq (pushed : Pushed span runs after) :
    spread after = spread runs ++ [lineAfter (lastLine runs) span] := by
  cases pushed with
  | joined sameLine => simp [sameLine, List.replicate_succ']
  | begun _ ownLine => simp [ownLine]

/-- The last run then has the line of the instruction. -/
theorem Pushed.lastLine_eq (pushed : Pushed span runs after) :
    lastLine after = lineAfter (lastLine runs) span := by
  cases pushed with
  | joined sameLine => simp [sameLine]
  | begun _ ownLine => simp [ownLine]

/-- Runs without waste: none is empty, and no two in a row are of the same line. -/
structure Packed (runs : List LineRun) : Prop where
  positive : ∀ run ∈ runs, 0 < run.count
  differ : runs.IsChain fun run next => run.line ≠ next.line

/-- Runs stay packed: none is empty, and neighbours differ. -/
theorem Pushed.packed (pushed : Pushed span runs after) (packed : Packed runs) : Packed after := by
  obtain ⟨positive, differ⟩ := packed
  cases pushed with
  | joined _ =>
      rw [List.isChain_append] at differ
      constructor
      · intro run member
        rcases List.mem_append.mp member with before | last
        · exact positive run (List.mem_append_left _ before)
        · rw [List.mem_singleton.mp last]
          exact Nat.succ_pos _
      · rw [List.isChain_append]
        exact ⟨differ.1, .singleton _, by simpa using differ.2.2⟩
  | begun otherLine _ =>
      constructor
      · intro run member
        rcases List.mem_append.mp member with before | last
        · exact positive run before
        · rw [List.mem_singleton.mp last]
          exact Nat.one_pos
      · rw [List.isChain_append]
        refine ⟨differ, .singleton _, ?_⟩
        rintro last isLast next ⟨⟩
        exact otherLine last isLast

end Pushed

end LineRun

/-! ### Written code -/

/-- The line that some spans leave off with: that of the last of them which is a place in the text,
or `-1` if none is. -/
inductive Span.Recent : List Span → (line : Int) → Prop where
  | place {before after : List Span} {place : Span} (placed : place ≠ .endOfInput)
      (last : ∀ span ∈ after, span = .endOfInput) : Recent (before ++ place :: after) place.line
  | nowhere {spans : List Span} (unplaced : ∀ span ∈ spans, span = .endOfInput) : Recent spans (-1)

/-- One more span leaves off with its own line, unless it is no place in the text. -/
theorem Span.Recent.lineAfter {spans : List Span} {line : Int} (recent : Recent spans line)
    (span : Span) : Recent (spans ++ [span]) (LineRun.lineAfter line span) := by
  unfold LineRun.lineAfter
  split
  · next unplaced =>
      subst unplaced
      cases recent with
      | place placed last =>
          rw [List.append_assoc, List.cons_append]
          refine .place placed fun other member => ?_
          rcases List.mem_append.mp member with before | atEnd
          · exact last other before
          · exact List.mem_singleton.mp atEnd
      | nowhere unplaced =>
          refine .nowhere fun other member => ?_
          rcases List.mem_append.mp member with before | atEnd
          · exact unplaced other before
          · exact List.mem_singleton.mp atEnd
  · next placed => exact .place placed (by simp)

namespace Code

open LineRun

/-- The code that instructions written one after another make up. -/
def ofWrites (writes : List (Instr Nat × Span)) : Code :=
  writes.foldl (fun code entry => code.write entry.1 entry.2) .empty

theorem ofWrites_concat (writes : List (Instr Nat × Span)) (entry : Instr Nat × Span) :
    ofWrites (writes ++ [entry]) = (ofWrites writes).write entry.1 entry.2 := by
  simp [ofWrites]

/-- Writing one more instruction adds it to the runs. -/
theorem pushed_ofWrites (writes : List (Instr Nat × Span)) (entry : Instr Nat × Span) :
    Pushed entry.2 (ofWrites writes).lines (ofWrites (writes ++ [entry])).lines := by
  rw [ofWrites_concat]
  exact pushed_push entry.2 (ofWrites writes).lines

/-- Every instruction written stands in the code, in its order. -/
theorem instrs_ofWrites (writes : List (Instr Nat × Span)) :
    (ofWrites writes).instrs = writes.map Prod.fst := by
  induction writes using List.reverseRecOn with
  | nil => rfl
  | append_singleton writes entry inductionHypothesis =>
      rw [ofWrites_concat, write, inductionHypothesis, List.map_append, List.map_singleton]

/-- The runs of written code are packed. -/
theorem packed_ofWrites (writes : List (Instr Nat × Span)) : Packed (ofWrites writes).lines := by
  induction writes using List.reverseRecOn with
  | nil =>
      constructor
      · intro run member
        cases member
      · exact .nil
  | append_singleton writes entry inductionHypothesis =>
      exact (pushed_ofWrites writes entry).packed inductionHypothesis

/-- The last run has the line of the most recent place. -/
theorem recent_lastLine_ofWrites (writes : List (Instr Nat × Span)) :
    Span.Recent (writes.map Prod.snd) (lastLine (ofWrites writes).lines) := by
  induction writes using List.reverseRecOn with
  | nil => exact .nowhere (by simp)
  | append_singleton writes entry inductionHypothesis =>
      rw [(pushed_ofWrites writes entry).lastLine_eq, List.map_append]
      exact inductionHypothesis.lineAfter entry.2

/-- The table spread out is the list of the lines that the table had last when each instruction was
written. -/
theorem spread_ofWrites (writes : List (Instr Nat × Span)) :
    spread (ofWrites writes).lines =
      (List.range writes.length).map fun i => lastLine (ofWrites (writes.take (i + 1))).lines := by
  induction writes using List.reverseRecOn with
  | nil => rfl
  | append_singleton writes entry inductionHypothesis =>
      have step := pushed_ofWrites writes entry
      have earlier : ∀ i ∈ List.range writes.length, (writes ++ [entry]).take (i + 1) =
          writes.take (i + 1) :=
        fun i member => List.take_append_of_le_length (List.mem_range.mp member)
      rw [step.spread_eq, ← step.lastLine_eq, inductionHypothesis, List.length_append,
        List.length_singleton, List.range_succ, List.map_append, List.map_singleton,
        List.take_of_length_le (by simp)]
      congr 1
      exact List.map_congr_left fun i member => by rw [earlier i member]

/-- The table of lines of written code is faithful. Every instruction written stands in the code.
The line of each is that of the most recent one, among those up to it, which comes from a place in
the text, or `-1` if there is none; behind the last instruction the line is `-1`. No run is empty,
together they are as long as the code, and no two in a row are of the same line. -/
theorem lineAt_ofWrites (writes : List (Instr Nat × Span)) :
    (ofWrites writes).instrs = writes.map Prod.fst ∧
      (∀ i < writes.length, Span.Recent ((writes.take (i + 1)).map Prod.snd)
        ((ofWrites writes).lineAt i)) ∧
      (∀ i, (ofWrites writes).instrs.length ≤ i → (ofWrites writes).lineAt i = -1) ∧
      (∀ run ∈ (ofWrites writes).lines, 0 < run.count) ∧
      ((ofWrites writes).lines.map LineRun.count).sum = (ofWrites writes).instrs.length ∧
      (ofWrites writes).lines.IsChain fun run next => run.line ≠ next.line := by
  have found : ∀ i, (ofWrites writes).lineAt i = (spread (ofWrites writes).lines)[i]?.getD (-1) :=
    lineAt_eq (ofWrites writes).lines
  have length : (ofWrites writes).instrs.length = writes.length := by
    rw [instrs_ofWrites, List.length_map]
  rw [spread_ofWrites] at found
  rw [length]
  refine ⟨instrs_ofWrites writes, fun i within => ?_, fun i behind => ?_,
    (packed_ofWrites writes).positive, ?_, (packed_ofWrites writes).differ⟩
  · have lineEq : (ofWrites writes).lineAt i = lastLine (ofWrites (writes.take (i + 1))).lines := by
      simpa [within] using found i
    rw [lineEq]
    exact recent_lastLine_ofWrites _
  · simpa [behind] using found i
  · rw [← length_spread, spread_ofWrites]
    simp

end Code

end Reckon
