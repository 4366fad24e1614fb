/-
Module: Reckon.Proofs.IntegerArithmetic
Purpose: What the operators give for two 64-bit integers. Sums, differences, products, powers and
  shifts to the left are the mathematical result, or an overflow if that is no 64-bit integer.
  Quotients, remainders and shifts to the right are rounded down, and the machine steps by which
  they are computed never trap.
Main exports: Value.Exactly, Value.Floored, Integer.shiftLeft_eq, Integer.shiftRight_eq,
  Integer.remainder_eq, Integer.floorDivide_eq, Value.binary_exact_or_overflow,
  Value.binary_rounds_down
-/
import Mathlib.Data.Rat.Floor
import Reckon.Arithmetic

namespace Reckon

/-! ### Integers in range -/

/-- Every integer of 64 bits is in range. -/
theorem int64?_toInt (w : Int64) : int64? w.toInt = some w := by
  rw [int64?, if_pos ⟨w.minValue_le_toInt, w.toInt_le⟩, Int64.ofInt_toInt]

theorem toInt_ne_zero {w : Int64} (nonzero : w ≠ 0) : w.toInt ≠ 0 :=
  fun toInt => nonzero (Int64.toInt_inj.mp toInt)

/-- A number outside the range is not kept. -/
theorem int64?_eq_none {n : Int} (outside : n < -2 ^ 63 ∨ 2 ^ 63 ≤ n) : int64? n = none := by
  have least : Int64.minValue.toInt = -9223372036854775808 := rfl
  have greatest : Int64.maxValue.toInt = 9223372036854775807 := rfl
  rw [int64?, if_neg]
  omega

/-- A number that is not kept is outside the range. -/
theorem outside_of_int64? {n : Int} (missing : int64? n = none) : n < -2 ^ 63 ∨ 2 ^ 63 ≤ n := by
  by_contra inside
  have found := Integer.isSome_int64? (n := n) (by omega) (by omega)
  rw [missing] at found
  cases found

namespace Value

/-- The outcome is the integer `n`, or an overflow if `n` is out of range. -/
inductive Exactly : (n : Int) → Except Fault Value → Prop where
  | integer (w : Int64) : Exactly w.toInt (.ok (.integer w))
  | overflow {n : Int} (outside : n < -2 ^ 63 ∨ 2 ^ 63 ≤ n) : Exactly n (.error .overflow)

/-- A checked result is exact, or an overflow. -/
theorem exactly_orOverflow (n : Int) :
    Exactly n ((Integer.orOverflow (int64? n)).map .integer) := by
  cases ranged : int64? n with
  | none => exact .overflow (outside_of_int64? ranged)
  | some w =>
      rw [← Integer.toInt_of_int64? ranged]
      exact .integer w

theorem exactly_exact (n : Int) : Exactly n (exact n) := by
  have outcome : exact n = (Integer.orOverflow (int64? n)).map (.integer : Int64 → Value) := by
    unfold exact
    cases int64? n <;> rfl
  rw [outcome]
  exact exactly_orOverflow n

/-- An integer, or an overflow, is narrowed already. -/
theorem Exactly.narrowed {n : Int} {outcome : Except Fault Value} (exactly : Exactly n outcome) :
    Exactly n (outcome.map narrow) := by
  cases exactly with
  | integer w => exact .integer w
  | overflow outside => exact .overflow outside

/-- What an operator gives is what its steps end with. -/
theorem narrow_ofSteps {steps : Option (Except Fault Int64)} {free : steps.isSome = true}
    {outcome : Except Fault Int64} (ends : steps = some outcome) :
    (ofSteps steps free).map narrow = outcome.map .integer := by
  subst ends
  cases outcome <;> rfl

end Value

/-! ### Powers -/

theorem outside_of_natAbs {n : Int} (large : 2 ^ 63 < n.natAbs) : n < -2 ^ 63 ∨ 2 ^ 63 ≤ n := by
  omega

/-- From 64 on, a power of two moves every number but zero out of the range. -/
theorem mul_pow_outside {a : Int} (nonzero : a ≠ 0) {n : Nat} (beyond : 64 ≤ n) :
    a * 2 ^ n < -2 ^ 63 ∨ 2 ^ 63 ≤ a * 2 ^ n := by
  apply outside_of_natAbs
  rw [Int.natAbs_mul, Int.natAbs_pow]
  calc 2 ^ 63 < 2 ^ 64 := by decide
    _ ≤ 2 ^ n := Nat.pow_le_pow_right (by decide) beyond
    _ ≤ a.natAbs * 2 ^ n := Nat.le_mul_of_pos_left _ (Int.natAbs_pos.mpr nonzero)

/-- The powers of a base of at least two leave the range long before the exponent leaves its 32
bits. -/
theorem pow_outside {base : Int} (large : 2 ≤ base.natAbs) {n : Nat} (beyond : 64 ≤ n) :
    base ^ n < -2 ^ 63 ∨ 2 ^ 63 ≤ base ^ n := by
  apply outside_of_natAbs
  rw [Int.natAbs_pow]
  calc 2 ^ 63 < 2 ^ 64 := by decide
    _ ≤ 2 ^ n := Nat.pow_le_pow_right (by decide) beyond
    _ ≤ base.natAbs ^ n := Nat.pow_le_pow_left large n

/-- A positive factor brings nothing back into the range. A negative one would: `2 ^ 63` is out of
range, `-2 ^ 63` is not. -/
theorem int64?_mul_of_pos {m k : Int} (missing : int64? m = none) (positive : 0 < k) :
    int64? (m * k) = none := by
  apply int64?_eq_none
  rcases outside_of_int64? missing with below | above
  · left
    calc m * k ≤ m * 1 := Int.mul_le_mul_of_nonpos_left (by omega) (by omega)
      _ < -2 ^ 63 := by omega
  · right
    calc (2 : Int) ^ 63 ≤ m * 1 := by omega
      _ ≤ m * k := Int.mul_le_mul_of_nonneg_left (by omega) (by omega)

/-- A square out of range is above `2 ^ 63`, which is no square. -/
theorem square_gt {m : Int} (missing : int64? (m * m) = none) : 2 ^ 63 < (m * m).natAbs := by
  have square : (m * m).natAbs = m.natAbs * m.natAbs := Int.natAbs_mul m m
  have outside := outside_of_int64? missing
  rcases Nat.lt_or_ge m.natAbs 3037000500 with small | large
  · have bound : m.natAbs * m.natAbs ≤ 3037000499 * 3037000499 :=
      Nat.mul_le_mul (by omega) (by omega)
    omega
  · have bound : 3037000500 * 3037000500 ≤ m.natAbs * m.natAbs := Nat.mul_le_mul large large
    omega

/-- So no factor but zero brings a square back into the range. -/
theorem int64?_square_mul {m k : Int} (missing : int64? (m * m) = none) (nonzero : k ≠ 0) :
    int64? (m * m * k) = none := by
  apply int64?_eq_none
  apply outside_of_natAbs
  calc 2 ^ 63 < (m * m).natAbs := square_gt missing
    _ ≤ (m * m).natAbs * k.natAbs := Nat.le_mul_of_pos_right _ (Int.natAbs_pos.mpr nonzero)
    _ = (m * m * k).natAbs := (Int.natAbs_mul _ _).symm

namespace Integer

/-- Repeated squaring is exact: where one of its steps is out of range, so is the power. -/
theorem multiplyPower?_eq (acc base : Int64) (n : Nat) (accNonzero : acc.toInt ≠ 0)
    (nonzero : base.toInt ≠ 0) :
    multiplyPower? acc base n = int64? (acc.toInt * base.toInt ^ n) := by
  fun_induction multiplyPower? acc base n with
  | case1 acc base => rw [pow_zero, mul_one, int64?_toInt]
  | case2 acc base => rw [pow_one, multiply?]
  | case3 acc base n notZero notOne rest =>
      have first : (if n % 2 = 1 then multiply? acc base else some acc) =
          int64? (acc.toInt * base.toInt ^ (n % 2)) := by
        rcases Nat.mod_two_eq_zero_or_one n with even | odd
        · rw [if_neg (by omega), even, pow_zero, mul_one, int64?_toInt]
        · rw [if_pos odd, odd, pow_one, multiply?]
      have whole : acc.toInt * base.toInt ^ n =
          acc.toInt * base.toInt ^ (n % 2) * (base.toInt * base.toInt) ^ (n / 2) := by
        rw [← pow_two, ← pow_mul, mul_assoc, ← pow_add, Nat.mod_add_div]
      have productNonzero : acc.toInt * base.toInt ^ (n % 2) ≠ 0 :=
        mul_ne_zero accNonzero (pow_ne_zero _ nonzero)
      have squareNonzero : base.toInt * base.toInt ≠ 0 := mul_ne_zero nonzero nonzero
      rw [first, whole]
      cases multiplied : int64? (acc.toInt * base.toInt ^ (n % 2)) with
      | none =>
          -- What is left to multiply with is a square, so it is positive.
          rw [Option.bind_none, int64?_mul_of_pos multiplied (pow_pos (mul_self_pos.mpr nonzero) _)]
      | some product =>
          have productEq := toInt_of_int64? multiplied
          rw [Option.bind_some]
          cases squared : multiply? base base with
          | none =>
              -- The exponent is at least two, so the square is a factor of the power.
              have factored : acc.toInt * base.toInt ^ (n % 2) *
                  (base.toInt * base.toInt) ^ (n / 2) =
                  base.toInt * base.toInt *
                    (acc.toInt * base.toInt ^ (n % 2) *
                      (base.toInt * base.toInt) ^ (n / 2 - 1)) := by
                rw [mul_left_comm, ← pow_succ', Nat.sub_add_cancel (by omega)]
              rw [Option.bind_none, factored, int64?_square_mul squared]
              exact mul_ne_zero productNonzero (pow_ne_zero _ squareNonzero)
          | some square =>
              have squareEq := toInt_of_int64? squared
              rw [Option.bind_some, rest product square (productEq ▸ productNonzero)
                (squareEq ▸ squareNonzero), productEq, squareEq]

/-- An exponent that fits into 32 bits is not changed. -/
theorem toNat_of_exponent? {b : Int64} {exponent : UInt32} (fits : exponent? b = some exponent) :
    exponent.toNat = b.toInt.toNat := by
  unfold exponent? at fits
  split at fits
  · next bounds =>
      cases fits
      have high : b.toInt < 4294967296 := Int64.lt_iff_toInt_lt.mp bounds.2
      have size : UInt32.size = 4294967296 := rfl
      exact UInt32.toNat_ofNat_of_lt' (by omega)
  · cases fits

/-- An exponent that is not negative and does not fit is at least two to the power of 32. -/
theorem le_of_exponent? {b : Int64} (least : 0 ≤ b) (beyond : exponent? b = none) :
    4294967296 ≤ b.toInt := by
  by_contra below
  have high : b < 4294967296 := Int64.lt_iff_toInt_lt.mpr (Int.not_le.mp below)
  rw [exponent?, if_pos ⟨least, high⟩] at beyond
  cases beyond

/-- The machine's power is exact for every base that is not zero. -/
theorem power?_eq {base : Int64} (nonzero : base ≠ 0) (exponent : UInt32) :
    power? base exponent = int64? (base.toInt ^ exponent.toNat) := by
  have one : (1 : Int64).toInt = 1 := rfl
  rw [power?, multiplyPower?_eq 1 base _ (by decide) (toInt_ne_zero nonzero), one, one_mul]

/-- The powers of minus one follow the parity of the exponent. -/
theorem neg_one_pow_toInt {b : Int64} (least : 0 ≤ b) :
    (-1 : Int) ^ b.toInt.toNat = (if b % 2 = 0 then 1 else -1 : Int64).toInt := by
  have low : 0 ≤ b.toInt := Int64.le_iff_toInt_le.mp least
  have parity : b % 2 = 0 ↔ b.toInt.toNat % 2 = 0 := by
    have two : (2 : Int64).toInt = 2 := rfl
    have zero : (0 : Int64).toInt = 0 := rfl
    rw [← Int64.toInt_inj, Int64.toInt_mod, two, zero, Int.tmod_eq_emod_of_nonneg low]
    omega
  rw [neg_one_pow_eq_pow_mod_two]
  rcases Nat.mod_two_eq_zero_or_one b.toInt.toNat with even | odd
  · rw [if_pos (parity.mpr even), even]
    rfl
  · rw [if_neg (fun divides => by have even := parity.mp divides; omega), odd]
    rfl

/-- The power with an exponent that is not negative is exact, whichever of its cases computes it. -/
theorem power_eq (a : Int64) {b : Int64} (least : 0 ≤ b) :
    Value.Exactly (a.toInt ^ b.toInt.toNat) ((power a b).map .integer) := by
  have low : 0 ≤ b.toInt := Int64.le_iff_toInt_le.mp least
  unfold power
  split
  · next flat =>
      have kept : a.toInt ^ b.toInt.toNat = a.toInt := by
        rcases flat with rfl | ⟨rfl, positive⟩
        · exact one_pow _
        · have high : 0 < b.toInt := Int64.lt_iff_toInt_lt.mp positive
          exact zero_pow (by omega)
      rw [kept]
      exact .integer a
  · next notFlat =>
      split
      · next alternating =>
          have minus : a.toInt = -1 := by rw [alternating]; rfl
          rw [minus, neg_one_pow_toInt least]
          exact .integer _
      · next notMinus =>
          by_cases zero : a = 0
          · -- Zero comes this far with the exponent zero only.
            have none : ¬0 < b := fun positive => notFlat (.inr ⟨zero, positive⟩)
            rw [zero, Int64.le_antisymm (Int64.not_lt.mp none) least, exponent?_zero,
              Option.bind_some, power?_zero]
            exact .integer 1
          · have large : 2 ≤ a.toInt.natAbs := by
              have notZero := toInt_ne_zero zero
              have notOne : a.toInt ≠ 1 := fun one => notFlat (.inl (Int64.toInt_inj.mp one))
              have notMinusOne : a.toInt ≠ -1 := fun one => notMinus (Int64.toInt_inj.mp one)
              omega
            cases fits : exponent? b with
            | none =>
                have beyond := le_of_exponent? least fits
                exact .overflow (pow_outside large (by omega))
            | some exponent =>
                rw [Option.bind_some, power?_eq zero, toNat_of_exponent? fits]
                exact Value.exactly_orOverflow _

/-! ### Shifts -/

/-- The machine takes a count within the width as it is. -/
theorem toNat_count {count : Int64} (least : 0 ≤ count) (small : count < 64) :
    (count.toBitVec.smod 64).toNat = count.toInt.toNat := by
  have low : 0 ≤ count.toInt := Int64.le_iff_toInt_le.mp least
  have high : count.toInt < 64 := Int64.lt_iff_toInt_lt.mp small
  have kept : (count.toBitVec.smod 64).toInt = count.toInt := by
    rw [BitVec.toInt_smod]
    exact Int.fmod_eq_of_lt low high
  rw [BitVec.toInt_eq_toNat_cond] at kept
  split at kept <;> omega

/-- Moving bits upwards multiplies by a power of two and wraps around. -/
theorem toInt_moveUp (a : Int64) {count : Int64} (least : 0 ≤ count) (small : count < 64) :
    (a <<< count).toInt = (a.toInt * 2 ^ count.toInt.toNat).bmod (2 ^ 64) := by
  have word : a.toInt = (a.toBitVec.toNat : Int).bmod (2 ^ 64) := BitVec.toInt_eq_toNat_bmod _
  calc (a <<< count).toInt
      = (a.toBitVec <<< count.toInt.toNat).toInt := by
        rw [← toNat_count least small]
        rfl
    _ = ((a.toBitVec.toNat : Int) * 2 ^ count.toInt.toNat).bmod (2 ^ 64) := by
        rw [BitVec.toInt_shiftLeft, Nat.shiftLeft_eq]
        push_cast
        rfl
    _ = (a.toInt * 2 ^ count.toInt.toNat).bmod (2 ^ 64) := by rw [word, Int.bmod_mul_bmod]

/-- Moving bits downwards divides by a power of two and rounds down. -/
theorem toInt_moveDown (a : Int64) {count : Int64} (least : 0 ≤ count) (small : count < 64) :
    (a >>> count).toInt = a.toInt / 2 ^ count.toInt.toNat := by
  calc (a >>> count).toInt
      = (a.toBitVec.sshiftRight count.toInt.toNat).toInt := by
        rw [← toNat_count least small]
        rfl
    _ = a.toInt / 2 ^ count.toInt.toNat := by
        rw [BitVec.toInt_sshiftRight, Int.shiftRight_eq_div_pow]
        push_cast
        rfl

/-- Wrapping around keeps the bits that a shift leaves free, so dividing them away gives the factor
again just where nothing was lost. -/
theorem back_eq_iff {a : Int} {n : Nat} (small : n < 64) :
    (a * 2 ^ n).bmod (2 ^ 64) / 2 ^ n = a ↔ -2 ^ 63 ≤ a * 2 ^ n ∧ a * 2 ^ n < 2 ^ 63 := by
  have power : (2 : Int) ^ n ≠ 0 := by positivity
  constructor
  · intro back
    have wraps : (2 : Int) ^ n ∣ (a * 2 ^ n).bmod (2 ^ 64) - a * 2 ^ n :=
      Int.dvd_trans (pow_dvd_pow 2 (Nat.le_of_lt small)) (by exact_mod_cast Int.dvd_bmod_sub_self)
    have even : (2 : Int) ^ n ∣ (a * 2 ^ n).bmod (2 ^ 64) :=
      (dvd_sub_left (Dvd.intro_left a rfl)).mp wraps
    have kept : (a * 2 ^ n).bmod (2 ^ 64) = a * 2 ^ n := by
      rw [← Int.ediv_mul_cancel even, back]
    have least := Int.le_bmod (x := a * 2 ^ n) (m := 2 ^ 64) (by decide)
    have greatest := Int.bmod_lt (x := a * 2 ^ n) (m := 2 ^ 64) (by decide)
    rw [kept] at least greatest
    exact ⟨by omega, by omega⟩
  · rintro ⟨least, greatest⟩
    rw [Int.bmod_eq_of_le (by omega) (by omega), Int.mul_ediv_cancel _ power]

/-- Moving the bits of an integer upwards and back gives it again just where the product is in
range. -/
theorem moveDown_moveUp_iff (a : Int64) {count : Int64} (least : 0 ≤ count) (small : count < 64) :
    a <<< count >>> count = a ↔
      -2 ^ 63 ≤ a.toInt * 2 ^ count.toInt.toNat ∧ a.toInt * 2 ^ count.toInt.toNat < 2 ^ 63 := by
  have width : count.toInt < 64 := Int64.lt_iff_toInt_lt.mp small
  rw [← back_eq_iff (by omega), ← Int64.toInt_inj, toInt_moveDown _ least small,
    toInt_moveUp a least small]

/-- A shift to the left multiplies by a power of two, exactly. -/
theorem shiftLeft_eq (a : Int64) {b : Int64} (least : 0 ≤ b) :
    ∃ outcome, shiftLeft a b = some outcome ∧
      Value.Exactly (a.toInt * 2 ^ b.toInt.toNat) (outcome.map .integer) := by
  have notNegative : ¬b < 0 := Int64.not_lt.mpr least
  rw [shiftLeft, if_neg notNegative]
  by_cases zero : a = 0
  · rw [if_pos zero, zero, Int64.toInt_zero, Int.zero_mul]
    exact ⟨_, rfl, .integer 0⟩
  · rw [if_neg zero]
    by_cases large : 64 ≤ b
    · have beyond : 64 ≤ b.toInt := Int64.le_iff_toInt_le.mp large
      rw [if_pos large]
      exact ⟨_, rfl, .overflow (mul_pow_outside (toInt_ne_zero zero) (by omega))⟩
    · have width := inWidth notNegative large
      have back := moveDown_moveUp_iff a width.1 width.2
      simp only [if_neg large, moveUp?, moveDown?, if_pos width, Option.bind_some, Option.map_some]
      split
      · next same =>
          have moved := toInt_moveUp a width.1 width.2
          obtain ⟨lower, upper⟩ := back.mp same
          rw [Int.bmod_eq_of_le (by omega) (by omega)] at moved
          rw [← moved]
          exact ⟨_, rfl, .integer _⟩
      · next lost =>
          refine ⟨_, rfl, .overflow ?_⟩
          rw [back] at lost
          omega

/-- A shift to the right divides by a power of two and rounds down. -/
theorem shiftRight_eq (a : Int64) {b : Int64} (least : 0 ≤ b) :
    ∃ s : Int64, shiftRight a b = some (.ok s) ∧ s.toInt = a.toInt / 2 ^ b.toInt.toNat := by
  have notNegative : ¬b < 0 := Int64.not_lt.mpr least
  rw [shiftRight, if_neg notNegative]
  by_cases large : 64 ≤ b
  · rw [if_pos large]
    refine ⟨_, rfl, ?_⟩
    have beyond : 64 ≤ b.toInt := Int64.le_iff_toInt_le.mp large
    have power : (2 : Int) ^ 64 ≤ 2 ^ b.toInt.toNat := pow_le_pow_right₀ (by decide) (by omega)
    have lower := a.le_toInt
    have upper := a.toInt_lt
    split
    · next negative =>
        have below : a.toInt < 0 := Int64.lt_iff_toInt_lt.mp negative
        rw [Int.ediv_eq_neg_one_of_neg_of_le below (by omega)]
        rfl
    · next positive =>
        have above : 0 ≤ a.toInt := Int64.le_iff_toInt_le.mp (Int64.not_lt.mp positive)
        rw [Int.ediv_eq_zero_of_lt above (by omega)]
        rfl
  · have width := inWidth notNegative large
    rw [if_neg large, moveDown?, if_pos width]
    exact ⟨_, rfl, toInt_moveDown a width.1 width.2⟩

end Integer

/-! ### Division -/

/-- The integers `q` and `r` are the quotient and the rest of `a` by `b` that go with rounding down:
the rest is less than the divisor, and zero or of its sign. -/
structure Value.Floored (a b q r : Int) : Prop where
  whole : a = b * q + r
  less : r.natAbs < b.natAbs
  sign : r = 0 ∨ (r < 0 ↔ b < 0)

/-- Where rounding towards zero is not rounding down. -/
def Integer.RoundedUp (a b : Int) : Prop :=
  a.tmod b ≠ 0 ∧ ¬(a < 0 ↔ b < 0)

namespace Integer

theorem natAbs_tmod_lt (a : Int) {b : Int} (nonzero : b ≠ 0) : (a.tmod b).natAbs < b.natAbs := by
  rw [Int.natAbs_tmod]
  exact Nat.mod_lt _ (Int.natAbs_pos.mpr nonzero)

/-- A rest that rounding towards zero leaves has the sign of the dividend. -/
theorem tmod_neg_iff {a b : Int} (rest : a.tmod b ≠ 0) : a.tmod b < 0 ↔ a < 0 := by
  rcases lt_or_ge a 0 with negative | positive
  · have mirrored := Int.tmod_nonneg b (Int.neg_nonneg_of_nonpos (Int.le_of_lt negative))
    rw [Int.neg_tmod] at mirrored
    omega
  · have kept := Int.tmod_nonneg b positive
    omega

/-- Where truncation rounds up, the next lower quotient is the floor. -/
theorem floored_of_roundedUp {a b : Int} (nonzero : b ≠ 0) (up : RoundedUp a b) :
    Value.Floored a b (a.tdiv b - 1) (a.tmod b + b) := by
  obtain ⟨rest, signs⟩ := up
  have less := natAbs_tmod_lt a nonzero
  rw [← tmod_neg_iff rest] at signs
  refine ⟨?_, by omega, by omega⟩
  calc a = b * a.tdiv b + a.tmod b := (Int.mul_tdiv_add_tmod a b).symm
    _ = b * (a.tdiv b - 1) + (a.tmod b + b) := by ring

/-- Where truncation does not round up, it gives the floor itself. -/
theorem floored_of_not_roundedUp {a b : Int} (nonzero : b ≠ 0) (down : ¬RoundedUp a b) :
    Value.Floored a b (a.tdiv b) (a.tmod b) := by
  refine ⟨(Int.mul_tdiv_add_tmod a b).symm, natAbs_tmod_lt a nonzero, ?_⟩
  by_cases rest : a.tmod b = 0
  · exact Or.inl rest
  · rw [tmod_neg_iff rest]
    exact Or.inr (not_not.mp fun signs => down ⟨rest, signs⟩)

/-- The machine has every quotient but the one that is one too large. -/
theorem quotient?_eq {a b : Int64} (nonzero : b ≠ 0) (fits : ¬(a = Int64.minValue ∧ b = -1)) :
    quotient? a b = some (a / b) ∧ (a / b).toInt = a.toInt.tdiv b.toInt := by
  have quotient : (a / b).toInt = a.toInt.tdiv b.toInt := by
    by_cases least : a = Int64.minValue
    · exact Int64.toInt_div_of_ne_right a b fun minus => fits ⟨least, minus⟩
    · exact Int64.toInt_div_of_ne_left a b least
  rw [quotient?, if_neg nonzero, ← quotient, int64?_toInt]
  exact ⟨rfl, rfl⟩

/-- The checked remainder is the truncated one; where the division itself would overflow, it is
zero. -/
theorem rest?_eq (a : Int64) {b : Int64} (nonzero : b ≠ 0) :
    ((rest? a b).getD 0).toInt = a.toInt.tmod b.toInt := by
  by_cases fits : a = Int64.minValue ∧ b = -1
  · obtain ⟨rfl, rfl⟩ := fits
    rfl
  · rw [rest?, (quotient?_eq nonzero fits).1]
    exact Int64.toInt_mod a b

/-- The test on the rest and the test on the dividend find the same divisions rounded up. -/
theorem roundedUp_iff {a b rest : Int64} (restEq : rest.toInt = a.toInt.tmod b.toInt) :
    (rest ≠ 0 ∧ ¬(a < 0 ↔ b < 0) ↔ RoundedUp a.toInt b.toInt) ∧
      (rest ≠ 0 ∧ ¬(rest < 0 ↔ b < 0) ↔ RoundedUp a.toInt b.toInt) := by
  have zero : rest = 0 ↔ a.toInt.tmod b.toInt = 0 := by
    rw [← restEq, ← Int64.toInt_inj, Int64.toInt_zero]
  simp only [RoundedUp, Int64.lt_iff_toInt_lt, Int64.toInt_zero, ne_eq, zero, restEq, true_and]
  exact and_congr_right fun remains => by rw [tmod_neg_iff remains]

/-- Floor division takes one from the quotients that were rounded up. -/
theorem floorDivide_eq {a b : Int64} (nonzero : b ≠ 0) (fits : ¬(a = Int64.minValue ∧ b = -1)) :
    ∃ q : Int64, floorDivide a b = some (.ok q) ∧
      (RoundedUp a.toInt b.toInt → q.toInt = a.toInt.tdiv b.toInt - 1) ∧
      (¬RoundedUp a.toInt b.toInt → q.toInt = a.toInt.tdiv b.toInt) := by
  obtain ⟨divided, quotient⟩ := quotient?_eq nonzero fits
  have free := isSome_floorDivide a b
  have up := (roundedUp_iff (Int64.toInt_mod a b)).1
  simp only [floorDivide, if_neg nonzero, divided, rest?, Option.map_some,
    Option.bind_some] at free ⊢
  by_cases corrected : a % b ≠ 0 ∧ ¬(a < 0 ↔ b < 0)
  · rw [if_pos corrected, Option.isSome_map, Option.isSome_iff_exists] at free
    obtain ⟨q, lower⟩ := free
    rw [if_pos corrected, lower]
    refine ⟨q, rfl, fun _ => ?_, fun down => absurd (up.mp corrected) down⟩
    rw [toInt_of_int64? lower, quotient]
    rfl
  · rw [if_neg corrected]
    exact ⟨a / b, rfl, fun rounded => absurd (up.mpr rounded) corrected, fun _ => quotient⟩

/-- The remainder is the rest of the machine, and the divisor more where the quotient was rounded
up. -/
theorem remainder_eq (a : Int64) {b : Int64} (nonzero : b ≠ 0) :
    ∃ r : Int64, remainder a b = some (.ok r) ∧
      (RoundedUp a.toInt b.toInt → r.toInt = a.toInt.tmod b.toInt + b.toInt) ∧
      (¬RoundedUp a.toInt b.toInt → r.toInt = a.toInt.tmod b.toInt) := by
  have free := isSome_remainder a b
  have restEq := rest?_eq a nonzero
  simp only [remainder, if_neg nonzero] at free ⊢
  generalize (rest? a b).getD 0 = rest at free restEq ⊢
  have up := (roundedUp_iff restEq).2
  by_cases corrected : rest ≠ 0 ∧ ¬(rest < 0 ↔ b < 0)
  · rw [if_pos corrected, Option.isSome_map, Option.isSome_iff_exists] at free
    obtain ⟨r, sum⟩ := free
    rw [if_pos corrected, sum]
    refine ⟨r, rfl, fun _ => ?_, fun down => absurd (up.mp corrected) down⟩
    rw [toInt_of_int64? sum, restEq]
  · rw [if_neg corrected]
    exact ⟨rest, rfl, fun rounded => absurd (up.mpr rounded) corrected, fun _ => restEq⟩

/-- Quotient and remainder, each corrected by a test of its own, belong together. -/
theorem floored {a b : Int64} (nonzero : b ≠ 0) (fits : ¬(a = Int64.minValue ∧ b = -1)) :
    ∃ q r : Int64, floorDivide a b = some (.ok q) ∧ remainder a b = some (.ok r) ∧
      Value.Floored a.toInt b.toInt q.toInt r.toInt := by
  obtain ⟨q, quotient, qUp, qDown⟩ := floorDivide_eq nonzero fits
  obtain ⟨r, rest, rUp, rDown⟩ := remainder_eq a nonzero
  have divisor : b.toInt ≠ 0 := toInt_ne_zero nonzero
  refine ⟨q, r, quotient, rest, ?_⟩
  by_cases up : RoundedUp a.toInt b.toInt
  · rw [qUp up, rUp up]
    exact floored_of_roundedUp divisor up
  · rw [qDown up, rDown up]
    exact floored_of_not_roundedUp divisor up

end Integer

/-! ### The operators on two integers -/

namespace Value

theorem binary_power_of_nonneg (a : Int64) {b : Int64} (least : 0 ≤ b) :
    binary .power (.integer a) (.integer b) =
      ((Integer.power a b).map (.integer : Int64 → Value)).map narrow := by
  have natural : power (.integer a) (.integer b) =
      (Integer.power a b).map (.integer : Int64 → Value) :=
    if_neg (Int64.not_lt.mpr least)
  rw [binary, rule, natural]

/-- Sums, differences, products, powers and shifts to the left are exact, or an overflow if the
mathematical result is no 64-bit integer: however large the exponent or the count. A negative count
is a fault of its own. -/
theorem binary_exact_or_overflow (a b : Int64) :
    Exactly (a.toInt + b.toInt) (binary .plus (.integer a) (.integer b)) ∧
      Exactly (a.toInt - b.toInt) (binary .minus (.integer a) (.integer b)) ∧
      Exactly (a.toInt * b.toInt) (binary .times (.integer a) (.integer b)) ∧
      (0 ≤ b → Exactly (a.toInt ^ b.toInt.toNat) (binary .power (.integer a) (.integer b))) ∧
      binary .power (.integer 0) (.integer 0) = .ok (.integer 1) ∧
      (0 ≤ b → Exactly (a.toInt * 2 ^ b.toInt.toNat)
        (binary .shiftLeft (.integer a) (.integer b))) ∧
      (b < 0 → binary .shiftLeft (.integer a) (.integer b) = .error .negativeShift) := by
  refine ⟨(exactly_exact _).narrowed, (exactly_exact _).narrowed, (exactly_exact _).narrowed, ?_,
    ?_, ?_, ?_⟩
  · intro least
    rw [binary_power_of_nonneg a least]
    exact (Integer.power_eq a least).narrowed
  · rw [binary_power_of_nonneg 0 (by decide), Integer.power, Integer.exponent?_zero,
      Option.bind_some, Integer.power?_zero]
    rfl
  · intro least
    obtain ⟨outcome, ends, exactly⟩ := Integer.shiftLeft_eq a least
    have shifted : binary .shiftLeft (.integer a) (.integer b) = outcome.map .integer :=
      narrow_ofSteps ends
    rw [shifted]
    exact exactly
  · intro negative
    have ends : Integer.shiftLeft a b = some (.error .negativeShift) := if_pos negative
    exact narrow_ofSteps ends

/-- Division and remainder are those that go with rounding down, except for the one quotient that is
out of range; by zero there is neither. A shift to the right by any count rounds down. No machine
step taken on the way traps. -/
theorem binary_rounds_down (a b : Int64) :
    (b = 0 → binary .remainder (.integer a) (.integer b) = .error .divisionByZero ∧
        binary .floorDivide (.integer a) (.integer b) = .error .divisionByZero) ∧
      (b ≠ 0 → ∃ r : Int64, binary .remainder (.integer a) (.integer b) = .ok (.integer r) ∧
        (binary .floorDivide (.integer a) (.integer b) = .error .overflow ↔
          a = Int64.minValue ∧ b = -1) ∧
        (a = Int64.minValue ∧ b = -1 → r = 0) ∧
        (¬(a = Int64.minValue ∧ b = -1) →
          ∃ q : Int64, binary .floorDivide (.integer a) (.integer b) = .ok (.integer q) ∧
            Floored a.toInt b.toInt q.toInt r.toInt)) ∧
      (0 ≤ b → ∃ s : Int64, binary .shiftRight (.integer a) (.integer b) = .ok (.integer s) ∧
        s.toInt = ⌊(a.toInt : ℚ) / 2 ^ b.toInt.toNat⌋) ∧
      (Integer.floorDivide a b).isSome ∧ (Integer.remainder a b).isSome ∧
      (Integer.shiftLeft a b).isSome ∧ (Integer.shiftRight a b).isSome := by
  refine ⟨?_, ?_, ?_, Integer.isSome_floorDivide a b, Integer.isSome_remainder a b,
    Integer.isSome_shiftLeft a b, Integer.isSome_shiftRight a b⟩
  · rintro rfl
    exact ⟨rfl, rfl⟩
  · intro nonzero
    by_cases fits : a = Int64.minValue ∧ b = -1
    · obtain ⟨rfl, rfl⟩ := fits
      exact ⟨0, rfl, iff_of_true rfl ⟨rfl, rfl⟩, fun _ => rfl, fun other => absurd ⟨rfl, rfl⟩ other⟩
    · obtain ⟨q, r, quotient, rest, floored⟩ := Integer.floored nonzero fits
      have divided : binary .floorDivide (.integer a) (.integer b) = .ok (.integer q) :=
        narrow_ofSteps quotient
      refine ⟨r, narrow_ofSteps rest, iff_of_false ?_ fits, fun least => absurd least fits,
        fun _ => ⟨q, divided, floored⟩⟩
      rw [divided]
      simp
  · intro least
    obtain ⟨s, shifted, quotient⟩ := Integer.shiftRight_eq a least
    refine ⟨s, narrow_ofSteps shifted, ?_⟩
    have power : (2 : ℚ) ^ b.toInt.toNat = ((2 ^ b.toInt.toNat : Nat) : ℚ) := by push_cast; rfl
    rw [power, Rat.floor_intCast_div_natCast, quotient]
    push_cast
    rfl

end Value

end Reckon
