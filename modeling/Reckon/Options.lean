/-
Module: Reckon.Options
Purpose: The switches for what is logged.
Main exports: Options, isEnabled, Options.ofSettings
-/
import Reckon.Text.Blank

namespace Reckon

/-- What is logged beside the events that always are: the listing of compiled code, and every
instruction of a run. -/
structure Options where
  debug : Bool
  trace : Bool
deriving DecidableEq, Repr

instance : Inhabited Options :=
  ⟨⟨false, false⟩⟩

/-- Whether a setting turns a switch on. Blanks around it and the case of its letters do not
matter. -/
def isEnabled (setting : String) : Bool :=
  let word := String.ofList ((Text.trimBlanks setting.toList).map Char.toLower)
  word == "1" || word == "true" || word == "yes" || word == "on"

/-- The switches by their settings; a switch without a setting is off. -/
def Options.ofSettings (debug trace : Option String) : Options :=
  ⟨debug.any isEnabled, trace.any isEnabled⟩

end Reckon
