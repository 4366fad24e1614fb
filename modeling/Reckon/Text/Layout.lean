/-
Module: Reckon.Text.Layout
Purpose: Text in columns, and text between quotation marks.
Main exports: alignRight, alignLeft, quoted
-/
import Reckon.Text.GraphemeExtend
import Reckon.Text.Printable

namespace Reckon.Text

/-- A text brought to at least `width` characters by a filler on its left. -/
def alignRight (filler : Char) (width : Nat) (s : String) : String :=
  String.ofList (List.replicate (width - s.length) filler) ++ s

/-- A text brought to at least `width` characters by blanks on its right. -/
def alignLeft (width : Nat) (s : String) : String :=
  s ++ String.ofList (List.replicate (width - s.length) ' ')

/-- A character given by its number. -/
def codedChar (c : Char) : List Char :=
  '\\' :: 'u' :: '\x7b' :: (Nat.toDigits 16 c.toNat ++ ['\x7d'])

/-- A character as it stands between quotation marks. The marks themselves, backslashes and some
control characters have escapes of their own. A character that would be written onto the one before
it, or cannot be shown, is given by its number. -/
def quotedChar (c : Char) : List Char :=
  match c with
  | '"' => ['\\', '"']
  | '\\' => ['\\', '\\']
  | '\n' => ['\\', 'n']
  | '\t' => ['\\', 't']
  | '\r' => ['\\', 'r']
  | '\x00' => ['\\', '0']
  | c => if isGraphemeExtend c || !isPrintable c then codedChar c else [c]

/-- A text between quotation marks. -/
def quoted (s : String) : String :=
  String.ofList ('"' :: (s.toList.flatMap quotedChar ++ ['"']))

end Reckon.Text
