/-
Module: Reckon.Proofs.FloatTexts
Purpose: Different floats have different texts. The text of a decimal, read digit by digit, has the
  value of the decimal, whether it is written with a power of ten or not; that value rounds to the
  float it was found for, and to no other. Not-a-numbers are one float here, and the infinities and
  the zeros differ in their words and signs.
Main exports: textValue, Decimal.textValue_render, FloatContent.ofFloat_injective,
  FloatContent.eq_of_render_eq, floatText_injective
-/
import Reckon.Number.FloatText
import Reckon.Proofs.Digits
import Reckon.Proofs.Lexeme
import Reckon.Proofs.RoundingIntervals

namespace Reckon

/-! ### Texts of decimals -/

/-- The number that a text stands for: its digits, moved by those behind the point and by the power
of ten. -/
def textValue (text : List Char) : ℚ :=
  let whole := text.takeWhile Char.isDigit
  match text.dropWhile Char.isDigit with
  | '.' :: behind =>
    let fraction := behind.takeWhile Char.isDigit
    digitsValue (whole ++ fraction) *
      10 ^ ((readExponent? (behind.dropWhile Char.isDigit)).getD 0 - fraction.length)
  | power => digitsValue whole * 10 ^ (readExponent? power).getD 0

section Parts

variable {whole fraction power : List Char} {exponent : Int}

/-- The value of a text with a point: the digits on both sides of it, and the power of ten behind
them. -/
theorem textValue_pointed (wholeDigits : ∀ c ∈ whole, c.isDigit = true)
    (longest : LongestRun Char.isDigit fraction power)
    (read : readExponent? power = some exponent) :
    textValue (whole ++ '.' :: (fraction ++ power)) =
      digitsValue (whole ++ fraction) * 10 ^ (exponent - fraction.length) := by
  have upToPoint : LongestRun Char.isDigit whole ('.' :: (fraction ++ power)) := by
    refine ⟨wholeDigits, ?_⟩
    intro c member
    cases member
    rfl
  simp only [textValue, upToPoint.takeWhile_eq, upToPoint.dropWhile_eq, longest.takeWhile_eq,
    longest.dropWhile_eq, read, Option.getD_some]

/-- The value of a text without a point. -/
theorem textValue_unpointed (longest : LongestRun Char.isDigit whole power)
    (noPoint : power.head? ≠ some '.') (read : readExponent? power = some exponent) :
    textValue (whole ++ power) = digitsValue whole * 10 ^ exponent := by
  simp only [textValue, longest.takeWhile_eq, longest.dropWhile_eq]
  split
  · next behind => exact absurd rfl noPoint
  · rw [read, Option.getD_some]

end Parts

section Rendered

variable {digits whole fraction : List Char}

/-- Digits up to the end of the text are a longest run. -/
theorem longestRun_end (areDigits : ∀ c ∈ digits, c.isDigit = true) :
    LongestRun Char.isDigit digits [] :=
  ⟨areDigits, fun _ member => by cases member⟩

theorem isDigit_of_mem_zeros {count : Nat} {c : Char} (member : c ∈ List.replicate count '0') :
    c.isDigit = true := by
  rw [List.eq_of_mem_replicate member]
  rfl

/-- The value of a text with a point and no power of ten. -/
theorem textValue_plain (wholeDigits : ∀ c ∈ whole, c.isDigit = true)
    (fractionDigits : ∀ c ∈ fraction, c.isDigit = true) :
    textValue (whole ++ '.' :: fraction) =
      digitsValue (whole ++ fraction) * 10 ^ (-fraction.length : Int) := by
  have valued := textValue_pointed wholeDigits (longestRun_end fractionDigits)
    (show readExponent? [] = some 0 from rfl)
  rwa [List.append_nil, zero_sub] at valued

/-- However the point is placed, the text has the value of its digits up to the power of ten for
that place. -/
theorem textValue_positional (areDigits : ∀ c ∈ digits, c.isDigit = true) (place : Int) :
    textValue (positional digits place) = digitsValue digits * 10 ^ (place - digits.length) := by
  have zero : ∀ c ∈ ['0'], c.isDigit = true := by simp
  unfold positional
  split
  · next before =>
      have behind : ∀ c ∈ List.replicate (-place).toNat '0' ++ digits, c.isDigit = true :=
        fun c member =>
        (List.mem_append.mp member).elim isDigit_of_mem_zeros (areDigits c)
      have valueEq : digitsValue (['0'] ++ (List.replicate (-place).toNat '0' ++ digits)) =
          digitsValue digits := by
        rw [digitsValue_append, digitsValue_append, digitsValue_zeros]
        simp [digitsValue]
      have valued := textValue_plain zero behind
      rw [valueEq, List.length_append, List.length_replicate] at valued
      rwa [show place - digits.length = -(((-place).toNat + digits.length : Nat) : Int) by omega]
  · next behind =>
      split
      · next short =>
          have padded : ∀ c ∈ digits ++ List.replicate (place.toNat - digits.length) '0',
              c.isDigit = true :=
            fun c member => (List.mem_append.mp member).elim (areDigits c) isDigit_of_mem_zeros
          have valueEq :
              digitsValue (digits ++ List.replicate (place.toNat - digits.length) '0' ++ ['0']) =
                digitsValue digits * 10 ^ (place.toNat - digits.length) * 10 := by
            rw [digitsValue_append, digitsValue_append, digitsValue_zeros, List.length_replicate]
            simp [digitsValue]
          rw [textValue_plain padded zero, valueEq, List.length_singleton,
            show place - digits.length = ((place.toNat - digits.length : Nat) : Int) by omega,
            zpow_natCast]
          push_cast
          rw [zpow_neg_one, mul_assoc, mul_inv_cancel₀ (by norm_num), mul_one]
      · next long =>
          have before : ∀ c ∈ digits.take place.toNat, c.isDigit = true :=
            fun c member => areDigits c (List.mem_of_mem_take member)
          have after : ∀ c ∈ digits.drop place.toNat, c.isDigit = true :=
            fun c member => areDigits c (List.mem_of_mem_drop member)
          rw [textValue_plain before after, List.take_append_drop, List.length_drop,
            show place - digits.length = -((digits.length - place.toNat : Nat) : Int) by omega]

/-- A text with a power of ten has the same value as one without. -/
theorem textValue_scientific (areDigits : ∀ c ∈ digits, c.isDigit = true) (nonempty : digits ≠ [])
    (place : Int) :
    textValue (scientific digits place) = digitsValue digits * 10 ^ (place - digits.length) := by
  have read : readExponent? ('e' :: (toString (place - 1)).toList) = some (place - 1) := by
    rw [readExponent?, if_pos (.inl rfl), readInt?_toString]
  have beforePower {run : List Char} (runDigits : ∀ c ∈ run, c.isDigit = true) :
      LongestRun Char.isDigit run ('e' :: (toString (place - 1)).toList) := by
    refine ⟨runDigits, fun c member => ?_⟩
    cases member
    rfl
  unfold scientific
  dsimp only
  split
  · next first second rest =>
      have single : ∀ c ∈ [first], c.isDigit = true := by
        simpa using areDigits first List.mem_cons_self
      have valued := textValue_pointed single
        (beforePower fun c member => areDigits c (List.mem_cons_of_mem _ member)) read
      rw [show place - (first :: second :: rest).length = place - 1 - (second :: rest).length by
        simp only [List.length_cons]; omega]
      exact valued
  · next short =>
      have one : digits.length = 1 := by
        rcases digits with _ | ⟨first, _ | ⟨second, rest⟩⟩
        · exact absurd rfl nonempty
        · rfl
        · exact absurd rfl (short first second rest)
      rw [textValue_unpointed (beforePower areDigits) (by simp) read, one]
      rfl

end Rendered

/-- The text of a decimal has its value. -/
theorem Decimal.textValue_render (style : FloatNotation) (d : Decimal) :
    textValue (d.render style) = d.value := by
  have areDigits : ∀ c ∈ Nat.toDigits 10 d.coefficient, c.isDigit = true :=
    fun _ => isDigit_of_mem_toDigits
  have shifted : (digitsValue (Nat.toDigits 10 d.coefficient) : ℚ) *
      10 ^ ((Nat.toDigits 10 d.coefficient).length +
        d.exponent - (Nat.toDigits 10 d.coefficient).length : Int) =
        d.value := by
    rw [digitsValue_toDigits, add_sub_cancel_left, value]
  unfold render
  dsimp only
  split
  · next zero =>
      rw [textValue_positional areDigits, digitsValue_toDigits, value, zero, Nat.cast_zero,
        zero_mul, zero_mul]
  · split
    · rw [textValue_positional areDigits, shifted]
    · rw [textValue_scientific areDigits Nat.toDigits_ne_nil, shifted]

/-- Whatever the notation, the text of a decimal begins with a digit. -/
theorem Decimal.exists_head?_render (style : FloatNotation) (d : Decimal) :
    ∃ c, (d.render style).head? = some c ∧ c.isDigit = true := by
  obtain ⟨first, rest, digitsEq⟩ :=
    List.exists_cons_of_ne_nil (Nat.toDigits_ne_nil (n := d.coefficient) (b := 10))
  have firstDigit : first.isDigit = true := by
    apply isDigit_of_mem_toDigits (n := d.coefficient)
    rw [digitsEq]
    exact List.mem_cons_self
  have inPositional (place : Int) : ∃ c, (positional (first :: rest) place).head? = some c ∧
      c.isDigit = true := by
    unfold positional
    split
    · exact ⟨'0', rfl, rfl⟩
    · next behind =>
        split
        · exact ⟨first, rfl, firstDigit⟩
        · obtain ⟨count, countEq⟩ : ∃ count, place.toNat = count + 1 := ⟨place.toNat - 1, by omega⟩
          rw [countEq]
          exact ⟨first, rfl, firstDigit⟩
  have inScientific (place : Int) : (scientific (first :: rest) place).head? = some first := by
    cases rest <;> rfl
  unfold render
  dsimp only
  rw [digitsEq]
  split
  · exact inPositional 1
  · split
    · exact inPositional _
    · exact ⟨first, inScientific _, firstDigit⟩

/-! ### Texts of floats -/

namespace FloatContent

/-- Whether a minus sign stands before the text. -/
def negative : FloatContent → Bool
  | .nan => false
  | .infinite negative => negative
  | .finite negative _ _ => negative

/-- The text without its sign. -/
def unsigned : FloatContent → List Char
  | .nan => "NaN".toList
  | .infinite _ => "inf".toList
  | .finite _ significand exponent =>
    (if significand = 0 then ⟨0, 0⟩
      else (Magnitude.mk significand exponent).shortest : Decimal).render .standard

/-- A text begins with a minus sign if the float is negative, and goes on without one. -/
theorem toList_render (c : FloatContent) :
    (c.render .standard).toList = (if c.negative then ['-'] else []) ++ c.unsigned := by
  cases c with
  | nan => rfl
  | infinite negative => cases negative <;> rfl
  | finite negative significand exponent =>
      cases negative <;> simp [render, FloatContent.negative, unsigned, String.toList_append]

/-- The text of a finite float begins with a digit, and with no letter. -/
theorem head?_unsigned_finite (negative : Bool) (significand : Nat) (exponent : Int) {other : Char}
    (noDigit : other.isDigit = false) :
    (FloatContent.finite negative significand exponent).unsigned.head? ≠ some other := by
  obtain ⟨first, head, digit⟩ := Decimal.exists_head?_render .standard
    (if significand = 0 then ⟨0, 0⟩ else (Magnitude.mk significand exponent).shortest)
  rw [unsigned, head, ne_eq, Option.some.injEq]
  exact ne_of_isDigit digit noDigit

/-- The unsigned part of a text does not begin with a minus sign. -/
theorem head?_unsigned (c : FloatContent) : c.unsigned.head? ≠ some '-' := by
  cases c with
  | nan => decide
  | infinite negative => exact show "inf".toList.head? ≠ some '-' by decide
  | finite negative significand exponent =>
      exact head?_unsigned_finite negative significand exponent rfl

/-- The sign of a text and what stands behind it are told apart. -/
theorem parts_of_render_eq {c d : FloatContent} (same : c.render .standard = d.render .standard) :
    c.negative = d.negative ∧ c.unsigned = d.unsigned := by
  have sameChars := congrArg String.toList same
  rw [toList_render, toList_render] at sameChars
  have cHead := c.head?_unsigned
  have dHead := d.head?_unsigned
  cases cSign : c.negative <;> cases dSign : d.negative <;> simp [cSign, dSign] at sameChars ⊢
  · exact sameChars
  · rw [sameChars] at cHead
    exact cHead rfl
  · rw [← sameChars] at dHead
    exact dHead rfl
  · exact sameChars

/-- The form that the fields of a float give. -/
def Canonical : FloatContent → Prop
  | .finite _ significand exponent =>
    significand = 0 ∧ exponent = -1074 ∨ (Magnitude.mk significand exponent).Canonical
  | _ => True

/-- Finite floats of one text have one significand and one exponent. -/
theorem eq_of_unsigned_eq {negative : Bool} {m n : Nat} {e f : Int}
    (mForm : (FloatContent.finite negative m e).Canonical)
    (nForm : (FloatContent.finite negative n f).Canonical)
    (same : (FloatContent.finite negative m e).unsigned =
      (FloatContent.finite negative n f).unsigned) :
    m = n ∧ e = f := by
  have sameValue := congrArg textValue same
  simp only [unsigned, Decimal.textValue_render] at sameValue
  have zeroValue : (Decimal.mk 0 0).value = 0 := by simp [Decimal.value]
  rcases mForm with ⟨rfl, rfl⟩ | mForm
  · rcases nForm with ⟨rfl, rfl⟩ | nForm
    · exact ⟨rfl, rfl⟩
    · rw [if_pos rfl, if_neg nForm.positive.ne', zeroValue] at sameValue
      exact absurd sameValue (Magnitude.shortest_value_pos nForm.positive).ne
  · rw [if_neg mForm.positive.ne'] at sameValue
    rcases nForm with ⟨rfl, rfl⟩ | nForm
    · rw [if_pos rfl, zeroValue] at sameValue
      exact absurd sameValue (Magnitude.shortest_value_pos mForm.positive).ne'
    · rw [if_neg nForm.positive.ne'] at sameValue
      exact (Magnitude.mk.injEq ..).mp (Magnitude.eq_of_shortest_value_eq mForm nForm sameValue)

/-- Contents in the form of floats that have one text are the same. -/
theorem eq_of_render_eq {c d : FloatContent} (cForm : c.Canonical) (dForm : d.Canonical)
    (same : c.render .standard = d.render .standard) : c = d := by
  obtain ⟨sameSign, sameText⟩ := parts_of_render_eq same
  have sameHead := congrArg List.head? sameText
  have words : "NaN".toList ≠ "inf".toList := by decide
  cases c with
  | nan =>
      cases d with
      | nan => rfl
      | infinite _ => exact absurd sameText words
      | finite _ _ _ => exact absurd sameHead.symm (head?_unsigned_finite _ _ _ (by decide))
  | infinite cNegative =>
      cases d with
      | nan => exact absurd sameText.symm words
      | infinite dNegative => exact congrArg _ sameSign
      | finite _ _ _ => exact absurd sameHead.symm (head?_unsigned_finite _ _ _ (by decide))
  | finite cNegative m e =>
      cases d with
      | nan => exact absurd sameHead (head?_unsigned_finite _ _ _ (by decide))
      | infinite _ => exact absurd sameHead (head?_unsigned_finite _ _ _ (by decide))
      | finite dNegative n f =>
          obtain ⟨rfl⟩ : cNegative = dNegative := sameSign
          obtain ⟨rfl, rfl⟩ := eq_of_unsigned_eq cForm dForm sameText
          rfl

/-! ### Bits of floats -/

/-- What the bits of a float hold is in canonical form. -/
theorem canonical_ofFloat (x : Float) : (ofFloat x).Canonical := by
  unfold ofFloat
  dsimp only
  have fractionBound : x.toBits.toNat % Nat.pow 2 52 < 2 ^ 52 := Nat.mod_lt _ (by decide)
  have exponentBound : x.toBits.toNat / Nat.pow 2 52 % Nat.pow 2 11 < 2 ^ 11 :=
    Nat.mod_lt _ (by decide)
  generalize x.toBits.toNat % Nat.pow 2 52 = fraction at fractionBound ⊢
  generalize x.toBits.toNat / Nat.pow 2 52 % Nat.pow 2 11 = biased at exponentBound ⊢
  split
  · split <;> trivial
  · split
    · rcases Nat.eq_zero_or_pos fraction with zero | positive
      · exact .inl ⟨zero, rfl⟩
      · exact .inr ⟨positive, fractionBound.trans (by decide), le_rfl,
          fun above => absurd above (lt_irrefl _)⟩
    · have power : Nat.pow 2 52 = 2 ^ 52 := rfl
      refine .inr ⟨?_, ?_, ?_, ?_⟩ <;> dsimp only <;> omega

/-- Floats of the same bits are the same. -/
theorem eq_of_toBits_eq {x y : Float} (same : x.toBits = y.toBits) : x = y := by
  obtain ⟨⟨xBits, _⟩⟩ := x
  obtain ⟨⟨yBits, _⟩⟩ := y
  cases same
  rfl

/-- Of the bits that stand for no number, floats have one pattern only. -/
theorem toBits_of_nan {x : Float} (exponent : x.toBits.toNat / 2 ^ 52 % 2 ^ 11 = 2047)
    (fraction : x.toBits.toNat % 2 ^ 52 ≠ 0) :
    x.toBits.toBitVec = Float.Model.UnpackedFloat.packedNaN .binary64 := by
  have bits : x.toBits = x.toModel.toBits := rfl
  rw [bits] at exponent fraction ⊢
  apply x.toModel.valid.eq_packedNaN
  · apply BitVec.eq_of_toNat_eq
    simpa [Float.Model.UnpackedFloat.unpackExponent, Nat.shiftRight_eq_div_pow] using exponent
  · intro zero
    apply fraction
    simpa [Float.Model.UnpackedFloat.unpackMantissa] using congrArg BitVec.toNat zero

/-- Bits with the same sign, exponent and fraction are the same. -/
theorem toBits_eq_of_fields {a b : UInt64} (sign : a.toNat / 2 ^ 63 = 1 ↔ b.toNat / 2 ^ 63 = 1)
    (exponent : a.toNat / 2 ^ 52 % 2 ^ 11 = b.toNat / 2 ^ 52 % 2 ^ 11)
    (fraction : a.toNat % 2 ^ 52 = b.toNat % 2 ^ 52) : a = b := by
  have aBound := a.toNat_lt
  have bBound := b.toNat_lt
  apply UInt64.toNat_inj.mp
  omega

/-- A float is told by its content. -/
theorem ofFloat_injective {x y : Float} (same : ofFloat x = ofFloat y) : x = y := by
  apply eq_of_toBits_eq
  have powers : Nat.pow 2 63 = 2 ^ 63 ∧ Nat.pow 2 52 = 2 ^ 52 ∧ Nat.pow 2 11 = 2 ^ 11 :=
    ⟨rfl, rfl, rfl⟩
  simp only [ofFloat, powers] at same
  have fractionBound (z : Float) : z.toBits.toNat % 2 ^ 52 < 2 ^ 52 := Nat.mod_lt _ (by decide)
  have xFraction := fractionBound x
  have yFraction := fractionBound y
  split at same
  · next xTop =>
      split at same
      · next xWhole =>
          split_ifs at same with yTop yWhole
          exact toBits_eq_of_fields (by simpa using same) (by omega) (by omega)
      · next xPart =>
          split_ifs at same with yTop yWhole
          have patterns := (toBits_of_nan xTop xPart).trans (toBits_of_nan yTop yWhole).symm
          exact UInt64.toBitVec_inj.mp patterns
  · split at same
    · next xLeast =>
        split_ifs at same with yTop yWhole yLeast <;>
          simp only [finite.injEq, decide_eq_decide] at same
        · exact toBits_eq_of_fields same.1 (by omega) same.2.1
        · omega
    · next xNormal =>
        split_ifs at same with yTop yWhole yLeast <;>
          simp only [finite.injEq, decide_eq_decide] at same
        · omega
        · exact toBits_eq_of_fields same.1 (by omega) (by omega)

end FloatContent

/-- Different floats have different texts. -/
theorem floatText_injective {x y : Float} (same : floatText x = floatText y) : x = y :=
  FloatContent.ofFloat_injective
    (FloatContent.eq_of_render_eq (FloatContent.canonical_ofFloat x)
      (FloatContent.canonical_ofFloat y) same)

end Reckon
