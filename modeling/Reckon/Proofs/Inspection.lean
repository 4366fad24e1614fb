/-
Module: Reckon.Proofs.Inspection
Purpose: The text of a value with its kind tells the value. Texts of different kinds begin with
  different letters; integers and floats are told by their digits, and strings by their quoted
  characters, of which each can be taken off a text without looking further.
Main exports: append_cons_inj_of_stop, Text.quotedChar_append_inj, Text.quoted_injective,
  Value.inspect_injective
-/
import Std.Data.String.ToInt
import Reckon.Proofs.FloatTexts
import Reckon.Value

namespace Reckon

/-- Texts that do not hold the character behind them end where it stands. -/
theorem append_cons_inj_of_stop {stop : Char} {first second a b : List Char}
    (noneInFirst : stop ∉ first) (noneInSecond : stop ∉ second)
    (same : first ++ stop :: a = second ++ stop :: b) : first = second ∧ a = b := by
  have upToStop {text : List Char} (noneInText : stop ∉ text) (rest : List Char) :
      LongestRun (· != stop) text (stop :: rest) := by
    refine ⟨fun c member => ?_, fun c member => ?_⟩
    · rw [bne_iff_ne]
      rintro rfl
      exact noneInText member
    · cases member
      exact bne_self_eq_false stop
  have sameText := congrArg (List.takeWhile (· != stop)) same
  have sameRest := congrArg (List.dropWhile (· != stop)) same
  rw [(upToStop noneInFirst a).takeWhile_eq, (upToStop noneInSecond b).takeWhile_eq] at sameText
  rw [(upToStop noneInFirst a).dropWhile_eq, (upToStop noneInSecond b).dropWhile_eq] at sameRest
  exact ⟨sameText, (List.cons.inj sameRest).2⟩

/-! ### Quoted text -/

namespace Text

/-- How a character stands between quotation marks. -/
inductive QuotedForm (c : Char) : List Char → Prop where
  /-- Behind a backslash stands a mark that stands for the character alone. -/
  | marked {mark : Char} (noCode : mark ≠ 'u') (marks : unescape mark = c) :
      QuotedForm c ['\\', mark]
  | coded : QuotedForm c (codedChar c)
  | plain (noSlash : c ≠ '\\') (noQuote : c ≠ '"') : QuotedForm c [c]

/-- Each character has one of the forms of quoted text. -/
theorem quotedForm (c : Char) : QuotedForm c (quotedChar c) := by
  unfold quotedChar
  split
  · exact .marked (by decide) rfl
  · exact .marked (by decide) rfl
  · exact .marked (by decide) rfl
  · exact .marked (by decide) rfl
  · exact .marked (by decide) rfl
  · exact .marked (by decide) rfl
  · next noQuote noSlash _ _ _ _ =>
      split
      · exact .coded
      · exact .plain noSlash noQuote

/-- The value of a hexadecimal digit. -/
def hexDigit (c : Char) : Nat :=
  if c.isDigit then c.toNat - '0'.toNat else c.toNat - 'a'.toNat + 10

/-- The value of hexadecimal digits. -/
def hexValue (digits : List Char) : Nat :=
  digits.foldl (fun value c => value * 16 + hexDigit c) 0

theorem hexDigit_digitChar : ∀ d < 16, hexDigit d.digitChar = d := by
  decide

/-- A number is read back from its hexadecimal digits, among which there is no brace. -/
theorem hexValue_toDigits (n : Nat) :
    hexValue (Nat.toDigits 16 n) = n ∧ '\x7d' ∉ Nat.toDigits 16 n := by
  induction n using Nat.strongRecOn with
  | ind n shorter =>
      rcases Nat.lt_or_ge n 16 with single | several
      · have digit := hexDigit_digitChar n single
        rw [Nat.toDigits_of_lt_base single]
        exact ⟨by rw [hexValue, List.foldl_cons, List.foldl_nil, digit, Nat.zero_mul,
          Nat.zero_add], by simp⟩
      · have digit := hexDigit_digitChar (n % 16) (Nat.mod_lt n (by decide))
        obtain ⟨value, noneBefore⟩ := shorter (n / 16) (by omega)
        rw [Nat.toDigits_of_base_le (by decide) several]
        constructor
        · rw [hexValue] at value
          rw [hexValue, List.foldl_append, value, List.foldl_cons, List.foldl_nil, digit]
          omega
        · simp [noneBefore]

/-- The number of a character ends at its brace. -/
theorem codedChar_append_inj {c d : Char} {a b : List Char}
    (same : codedChar c ++ a = codedChar d ++ b) : c = d ∧ a = b := by
  simp only [codedChar, List.cons_append, List.append_assoc, List.nil_append, List.cons.injEq,
    true_and] at same
  obtain ⟨sameDigits, sameRest⟩ :=
    append_cons_inj_of_stop (hexValue_toDigits c.toNat).2 (hexValue_toDigits d.toNat).2 same
  have sameNumber : c.toNat = d.toNat := by
    rw [← (hexValue_toDigits c.toNat).1, ← (hexValue_toDigits d.toNat).1, sameDigits]
  exact ⟨Char.toNat_inj.mp sameNumber, sameRest⟩

/-- The first quoted character of a text is told from the rest. -/
theorem quotedChar_append_inj {c d : Char} {a b : List Char}
    (same : quotedChar c ++ a = quotedChar d ++ b) : c = d ∧ a = b := by
  have cForm := quotedForm c
  have dForm := quotedForm d
  generalize quotedChar c = cText at cForm same
  generalize quotedChar d = dText at dForm same
  cases cForm with
  | marked cNoCode cMarks =>
      cases dForm with
      | marked _ dMarks =>
          cases same
          exact ⟨cMarks.symm.trans dMarks, rfl⟩
      | coded =>
          cases same
          exact absurd rfl cNoCode
      | plain noSlash _ =>
          cases same
          exact absurd rfl noSlash
  | coded =>
      cases dForm with
      | marked dNoCode _ =>
          cases same
          exact absurd rfl dNoCode
      | coded => exact codedChar_append_inj same
      | plain noSlash _ =>
          cases same
          exact absurd rfl noSlash
  | plain noSlash _ =>
      cases dForm with
      | marked | coded =>
          cases same
          exact absurd rfl noSlash
      | plain _ _ =>
          cases same
          exact ⟨rfl, rfl⟩

/-- No quoted character begins with a quotation mark, which ends the text. -/
theorem head?_quotedChar (c : Char) (rest : List Char) :
    (quotedChar c ++ rest).head? ≠ some '"' := by
  have form := quotedForm c
  generalize quotedChar c = text at form
  cases form with
  | marked => simp
  | coded => simp [codedChar]
  | plain _ noQuote => simpa using noQuote

/-- A quoted text tells which text it quotes. -/
theorem quoted_injective {s t : String} (same : quoted s = quoted t) : s = t := by
  have bodies : ∀ a b : List Char, a.flatMap quotedChar ++ ['"'] = b.flatMap quotedChar ++ ['"'] →
      a = b := by
    intro a
    induction a with
    | nil =>
        intro b sameBody
        cases b with
        | nil => rfl
        | cons d b =>
            rw [List.flatMap_cons, List.append_assoc] at sameBody
            exact absurd (congrArg List.head? sameBody).symm (head?_quotedChar d _)
    | cons c a inductionHypothesis =>
        intro b sameBody
        cases b with
        | nil =>
            rw [List.flatMap_cons, List.append_assoc] at sameBody
            exact absurd (congrArg List.head? sameBody) (head?_quotedChar c _)
        | cons d b =>
            simp only [List.flatMap_cons, List.append_assoc] at sameBody
            obtain ⟨rfl, sameRest⟩ := quotedChar_append_inj sameBody
            rw [inductionHypothesis b sameRest]
  apply String.toList_inj.mp
  apply bodies
  have sameChars := congrArg String.toList same
  simpa [quoted] using sameChars

example : quoted "é\u0301" = "\"é\\u\x7b301\x7d\"" := by decide +kernel

end Text

/-! ### Values -/

namespace Value

/-- The text begins with the name of the kind. -/
theorem head?_inspect (v : Value) : v.inspect.toList.head? = v.kind.name.toList.head? := by
  cases v <;> simp [inspect, kind, ValueKind.name, String.toList_append]

/-- The text of a value tells its kind: each kind begins with characters of its own. -/
theorem kind_eq_of_inspect_eq {v w : Value} (same : v.inspect = w.inspect) : v.kind = w.kind := by
  have letters : ∀ k l : ValueKind, k.name.toList.head? = l.name.toList.head? → k = l := by
    intro k l
    cases k <;> cases l <;> decide
  apply letters
  rw [← head?_inspect, ← head?_inspect, same]

/-- Values of one text are the same. -/
theorem inspect_injective {v w : Value} (same : v.inspect = w.inspect) : v = w := by
  have sameKind := kind_eq_of_inspect_eq same
  cases v <;> cases w <;> cases sameKind <;>
    simp only [inspect, String.append_left_inj, String.append_right_inj] at same
  · rw [Int64.toInt_inj.mp (Int.repr_inj.mp same)]
  · rw [floatText_injective same]
  · next a b =>
      revert same
      cases a <;> cases b <;> decide
  · rw [Text.quoted_injective same]
  · rfl

end Value

end Reckon
