/-
Module: Reckon.Span
Purpose: Where a piece of a program stands in its text.
Main exports: Span, Span.endOfInput, Span.point, Span.join, Span.describe
-/

namespace Reckon

/-- A stretch of text: the character offsets of its two ends, and the line and column at which it
begins. -/
structure Span where
  start : Int
  stop : Int
  line : Int
  column : Int
deriving DecidableEq, Repr

namespace Span

/-- The place behind the last character, which is no place in the text. -/
def endOfInput : Span :=
  ⟨-1, -1, -1, -1⟩

instance : Inhabited Span :=
  ⟨endOfInput⟩

/-- The place of a single character. -/
def point (offset line column : Int) : Span :=
  ⟨offset, offset, line, column⟩

/-- Everything from the start of `first` to the stop of `last`. -/
def join (first last : Span) : Span :=
  ⟨first.start, last.stop, first.line, first.column⟩

/-- The span of an operand, taken back to the start of the operator before it. It keeps the line and
column of the operand. -/
def extendBack (operator operand : Span) : Span :=
  ⟨operator.start, operand.stop, operand.line, operand.column⟩

/-- A span in words. -/
def describe (s : Span) : String :=
  if s = endOfInput then "end of file"
  else "line " ++ toString s.line ++ ", column " ++ toString s.column

end Span

end Reckon
