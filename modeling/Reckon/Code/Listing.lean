/-
Module: Reckon.Code.Listing
Purpose: Code as text, one line for each instruction: its index, its line unless that is the line of
  the instruction before it, its name and its argument.
Main exports: Code.listingLine, Code.listing
-/
import Reckon.Code

namespace Reckon.Code

/-- The argument of an instruction in a listing: the constant that an index stands for, or a
label. -/
def argumentText (code : Code) : Instr Nat → String
  | .constant index =>
    match code.constants[index]? with
    | some v => " " ++ v.display
    | none => " <invalid " ++ toString index ++ ">"
  | .label id | .jump id | .popJumpIf _ id => " L" ++ toString id
  | _ => ""

/-- The line of a listing for the instruction at an index. -/
def listingLine (code : Code) (index : Nat) : String :=
  match code.instrs[index]? with
  | none => "END\n"
  | some instr =>
    let line := code.lineAt index
    let lineText :=
      if 0 < index ∧ line = code.lineAt (index - 1) then "   |"
      else Text.alignRight ' ' 4 (toString line)
    Text.alignRight '0' 4 (toString index) ++ " " ++ lineText ++ " " ++ instr.mnemonic ++
      code.argumentText instr ++ "\n"

/-- The listing of all instructions. -/
def listing (code : Code) : String :=
  String.join ((List.range code.instrs.length).map code.listingLine)

end Reckon.Code
