/-
Module: Reckon.Proofs.Digits
Purpose: What digits stand for. Decimal digits are read as the sum of their values by place, whole
  numbers and decimal numbers alike.
Main exports: digitsValue, digitsValue_append, digitsValue_toDigits, readNat?_of_digits,
  readInt?_toString, readFloat?_of_parts
-/
import Mathlib.Data.List.TakeWhile
import Mathlib.Tactic.Ring
import Reckon.Number.Numeral

namespace Reckon

/-- The value of decimal digits, each of them worth ten times the one behind it. -/
def digitsValue : List Char → Nat
  | [] => 0
  | digit :: rest => (digit.toNat - '0'.toNat) * 10 ^ rest.length + digitsValue rest

/-- The value of digits is the one of the standard library. -/
theorem ofDigitChars_eq (digits : List Char) :
    Nat.ofDigitChars 10 digits 0 = digitsValue digits := by
  induction digits with
  | nil => rfl
  | cons digit rest inductionHypothesis =>
      rw [Nat.ofDigitChars_cons, Nat.ofDigitChars_eq_ofDigitChars_zero, inductionHypothesis,
        digitsValue, Nat.mul_zero, Nat.zero_add, Nat.mul_comm]

/-- Digits before others count for as many powers of ten. -/
theorem digitsValue_append (first second : List Char) :
    digitsValue (first ++ second) =
      digitsValue first * 10 ^ second.length + digitsValue second := by
  induction first with
  | nil => simp [digitsValue]
  | cons digit rest inductionHypothesis =>
      rw [List.cons_append, digitsValue, digitsValue, inductionHypothesis, List.length_append,
        pow_add]
      ring

/-- Zeros have the value zero. -/
theorem digitsValue_zeros (count : Nat) : digitsValue (List.replicate count '0') = 0 := by
  induction count with
  | zero => rfl
  | succ count inductionHypothesis =>
      rw [List.replicate_succ, digitsValue, inductionHypothesis, Nat.sub_self, Nat.zero_mul]

/-- The digits of a number have its value. -/
theorem digitsValue_toDigits (n : Nat) : digitsValue (Nat.toDigits 10 n) = n := by
  rw [← ofDigitChars_eq, Nat.ofDigitChars_ten_toDigits]

theorem isDigit_of_mem_toDigits {n : Nat} {c : Char} (member : c ∈ Nat.toDigits 10 n) :
    c.isDigit = true :=
  Nat.isDigit_of_mem_toDigits (by decide) (by decide) member

theorem ne_of_isDigit {digit other : Char} (isDigit : digit.isDigit = true)
    (noDigit : other.isDigit = false) : digit ≠ other := by
  rintro rfl
  rw [isDigit] at noDigit
  cases noDigit

section Digits

variable {digits whole fraction : List Char}

/-- Digits are read as their value. -/
theorem readDigits?_of_digits (nonempty : digits ≠ [])
    (areDigits : ∀ c ∈ digits, c.isDigit = true) :
    readDigits? digits = some (digitsValue digits) := by
  have allDigits : digits.all Char.isDigit = true := List.all_eq_true.mpr areDigits
  simp [readDigits?, nonempty, allDigits, ofDigitChars_eq]

/-- Digits are read as a natural number. -/
theorem readNat?_of_digits (nonempty : digits ≠ []) (areDigits : ∀ c ∈ digits, c.isDigit = true) :
    readNat? digits = some (digitsValue digits) := by
  have read := readDigits?_of_digits nonempty areDigits
  unfold readNat?
  split
  · next rest => exact absurd (areDigits '+' List.mem_cons_self) (by decide)
  · exact read

/-- Digits are read as an integer that is not negative. -/
theorem readInt?_of_digits (nonempty : digits ≠ []) (areDigits : ∀ c ∈ digits, c.isDigit = true) :
    readInt? digits = some (digitsValue digits : Int) := by
  have read := readDigits?_of_digits nonempty areDigits
  unfold readInt?
  split
  · next rest => exact absurd (areDigits '+' List.mem_cons_self) (by decide)
  · next rest => exact absurd (areDigits '-' List.mem_cons_self) (by decide)
  · rw [read]
    rfl

/-- The text of a whole number is read back. -/
theorem readInt?_toString (k : Int) : readInt? (toString k).toList = some k := by
  have read (n : Nat) :=
    readDigits?_of_digits (Nat.toDigits_ne_nil (n := n)) fun _ => isDigit_of_mem_toDigits
  rw [Int.toString_eq_repr, Int.repr_eq_if]
  split
  · next nonneg =>
      rw [Nat.toList_repr, readInt?_of_digits Nat.toDigits_ne_nil fun _ => isDigit_of_mem_toDigits,
        digitsValue_toDigits, Int.toNat_of_nonneg nonneg]
  · next negative =>
      have textEq : ("-" ++ (-k).toNat.repr).toList = '-' :: Nat.toDigits 10 (-k).toNat := by
        rw [String.toList_append, Nat.toList_repr]
        rfl
      rw [textEq, readInt?, read, digitsValue_toDigits, Option.map_some]
      simp only [Int.ofNat_eq_natCast, Option.some.injEq]
      omega

theorem toLower_of_isDigit {digit : Char} (isDigit : digit.isDigit = true) :
    digit.toLower = digit := by
  have small := (Char.isDigit_iff_toNat.mp isDigit).2
  unfold Char.toLower
  split
  · next upper => exact absurd (Nat.le_trans (UInt32.le_iff_toNat_le.mp upper.1) small) (by decide)
  · rfl

/-- What begins with a digit spells no word that begins with a letter. -/
theorem ofList_map_toLower_ne {digit : Char} (isDigit : digit.isDigit = true) (rest : List Char)
    {word : String} {letter : Char} (spelled : word.toList.head? = some letter)
    (noDigit : letter.isDigit = false) :
    String.ofList ((digit :: rest).map Char.toLower) ≠ word := by
  rintro rfl
  rw [String.toList_ofList, List.map_cons, toLower_of_isDigit isDigit, List.head?_cons] at spelled
  exact ne_of_isDigit isDigit noDigit (Option.some.inj spelled)

/-- Digits with a point among them, and at least one before it, are a decimal number. -/
theorem readMagnitude?_of_parts (nonempty : whole ≠ [])
    (wholeDigits : ∀ c ∈ whole, c.isDigit = true)
    (fractionDigits : ∀ c ∈ fraction, c.isDigit = true) :
    readMagnitude? (whole ++ '.' :: fraction) =
      some (floatOfDecimal (digitsValue (whole ++ fraction)) (0 - fraction.length)) := by
  have wholeEq : (whole ++ '.' :: fraction).takeWhile Char.isDigit = whole := by
    rw [List.takeWhile_append_of_pos wholeDigits, List.takeWhile_cons_of_neg (by decide),
      List.append_nil]
  have restEq : (whole ++ '.' :: fraction).dropWhile Char.isDigit = '.' :: fraction := by
    rw [List.dropWhile_append_of_pos wholeDigits, List.dropWhile_cons_of_neg (by decide)]
  have fractionEq : fraction.takeWhile Char.isDigit = fraction :=
    List.takeWhile_eq_self_iff.mpr fractionDigits
  have ended : fraction.dropWhile Char.isDigit = [] := List.dropWhile_eq_nil_iff.mpr fractionDigits
  simp [readMagnitude?, wholeEq, restEq, fractionEq, ended, nonempty, readExponent?,
    ofDigitChars_eq]

/-- Digits around a point are read as the float of their decimal. -/
theorem readFloat?_of_parts (nonempty : whole ≠ []) (wholeDigits : ∀ c ∈ whole, c.isDigit = true)
    (fractionDigits : ∀ c ∈ fraction, c.isDigit = true) :
    readFloat? (whole ++ '.' :: fraction) =
      some (floatOfDecimal (digitsValue (whole ++ fraction)) (0 - fraction.length)) := by
  have magnitude := readMagnitude?_of_parts nonempty wholeDigits fractionDigits
  obtain ⟨digit, others, rfl⟩ := List.exists_cons_of_ne_nil nonempty
  have isDigit := wholeDigits digit List.mem_cons_self
  rw [List.cons_append] at magnitude ⊢
  have spellsNothing : readUnsigned? (digit :: (others ++ '.' :: fraction)) =
      readMagnitude? (digit :: (others ++ '.' :: fraction)) := by
    have noWord := @ofList_map_toLower_ne digit isDigit (others ++ '.' :: fraction)
    simp only [readUnsigned?, noWord (show "inf".toList.head? = some 'i' by rfl) rfl,
      noWord (show "infinity".toList.head? = some 'i' by rfl) rfl,
      noWord (show "nan".toList.head? = some 'n' by rfl) rfl, or_false, if_false]
  unfold readFloat?
  split
  · next signed => exact absurd (List.cons.inj signed).1 (ne_of_isDigit isDigit (by decide))
  · next signed => exact absurd (List.cons.inj signed).1 (ne_of_isDigit isDigit (by decide))
  · rw [spellsNothing, magnitude]

end Digits

end Reckon
