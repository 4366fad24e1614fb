/-
Module: Reckon.Integer
Purpose: Powers, division and shifts of 64-bit integers in the steps of a machine. A step has a
  result or traps: the machine has no integer out of range, no quotient by zero and no shift by its
  width or more, and its exponents have 32 bits. Quotients are rounded towards zero, and bits that
  are shifted out are lost. The operations of the language round down and lose nothing, so they
  correct and check what the machine gives; no step of a division or a shift ever traps.
Main exports: Integer.power, Integer.floorDivide, Integer.remainder, Integer.shiftLeft,
  Integer.shiftRight
-/
import Reckon.Fault

namespace Reckon.Integer

/-! ### Steps: no result is a trap -/

/-- The sum. -/
def add? (a b : Int64) : Option Int64 :=
  int64? (a.toInt + b.toInt)

/-- The difference. -/
def subtract? (a b : Int64) : Option Int64 :=
  int64? (a.toInt - b.toInt)

/-- The product. -/
def multiply? (a b : Int64) : Option Int64 :=
  int64? (a.toInt * b.toInt)

/-- The product of `acc` with a power, by repeated squaring. The last square is not taken. -/
def multiplyPower? (acc base : Int64) (exponent : Nat) : Option Int64 :=
  if exponent = 0 then some acc
  else if exponent = 1 then multiply? acc base
  else
    (if exponent % 2 = 1 then multiply? acc base else some acc).bind fun acc =>
      (multiply? base base).bind fun square => multiplyPower? acc square (exponent / 2)

/-- The power. -/
def power? (base : Int64) (exponent : UInt32) : Option Int64 :=
  multiplyPower? 1 base exponent.toNat

@[simp] theorem power?_zero (base : Int64) : power? base 0 = some 1 := by
  rw [power?, multiplyPower?]
  rfl

/-- An integer as an exponent. -/
def exponent? (b : Int64) : Option UInt32 :=
  if 0 ≤ b ∧ b < 4294967296 then some (.ofNat b.toInt.toNat) else none

@[simp] theorem exponent?_zero : exponent? 0 = some 0 := rfl

/-- The quotient, rounded towards zero. -/
def quotient? (a b : Int64) : Option Int64 :=
  if b = 0 then none else int64? (a.toInt.tdiv b.toInt)

/-- What the quotient leaves. The machine has it from the division, so it traps where there is no
quotient. -/
def rest? (a b : Int64) : Option Int64 :=
  (quotient? a b).map fun _ => a % b

/-- The bits moved upwards by less than the width. -/
def moveUp? (a count : Int64) : Option Int64 :=
  if 0 ≤ count ∧ count < 64 then some (a <<< count) else none

/-- The bits moved downwards by less than the width, behind copies of the sign. -/
def moveDown? (a count : Int64) : Option Int64 :=
  if 0 ≤ count ∧ count < 64 then some (a >>> count) else none

/-! ### Operations -/

/-- The outcome of a step where a trap means that the result is out of range. -/
def orOverflow : Option Int64 → Except Fault Int64
  | some n => .ok n
  | none => .error .overflow

/-- The power with an exponent that is not negative. The bases whose powers never grow have one for
every exponent. -/
def power (a b : Int64) : Except Fault Int64 :=
  if a = 1 ∨ a = 0 ∧ 0 < b then .ok a
  else if a = -1 then .ok (if b % 2 = 0 then 1 else -1)
  else orOverflow ((exponent? b).bind (power? a))

/-- The quotient rounded down. Where the signs differ and the division leaves a rest, the machine
rounded up. -/
def floorDivide (a b : Int64) : Option (Except Fault Int64) :=
  if b = 0 then some (.error .divisionByZero)
  else
    match quotient? a b with
    | none => some (.error .overflow)
    | some quotient =>
      (rest? a b).bind fun rest =>
        if rest ≠ 0 ∧ ¬(a < 0 ↔ b < 0) then (subtract? quotient 1).map .ok else some (.ok quotient)

/-- The rest of the division that rounds down. It is zero or has the sign of the divisor. -/
def remainder (a b : Int64) : Option (Except Fault Int64) :=
  if b = 0 then some (.error .divisionByZero)
  else
    -- The one quotient by another divisor that is out of range leaves no rest.
    let rest := (rest? a b).getD 0
    if rest ≠ 0 ∧ ¬(rest < 0 ↔ b < 0) then (add? rest b).map .ok else some (.ok rest)

/-- The product with a power of two. It is in range if moving the bits back gives the integer
again. -/
def shiftLeft (a b : Int64) : Option (Except Fault Int64) :=
  if b < 0 then some (.error .negativeShift)
  else if a = 0 then some (.ok 0)
  else if 64 ≤ b then some (.error .overflow)
  else
    (moveUp? a b).bind fun moved =>
      (moveDown? moved b).map fun back => if back = a then .ok moved else .error .overflow

/-- The quotient by a power of two, rounded down. A shift by the width or more leaves copies of the
sign. -/
def shiftRight (a b : Int64) : Option (Except Fault Int64) :=
  if b < 0 then some (.error .negativeShift)
  else if 64 ≤ b then some (.ok (if a < 0 then -1 else 0))
  else (moveDown? a b).map .ok

/-! ### No step traps -/

/-- What is kept in 64 bits is the number itself. -/
theorem toInt_of_int64? {n : Int} {w : Int64} (inRange : int64? n = some w) : w.toInt = n := by
  unfold int64? at inRange
  split at inRange
  · next bounds =>
      cases inRange
      exact Int64.toInt_ofInt_of_le bounds.1 (Int.lt_of_le_of_lt bounds.2 (by decide))
  · cases inRange

/-- A number of the 64-bit range is kept. -/
theorem isSome_int64? {n : Int} (least : -9223372036854775808 ≤ n)
    (greatest : n < 9223372036854775808) : (int64? n).isSome = true := by
  have bounds : Int64.minValue.toInt ≤ n ∧ n ≤ Int64.maxValue.toInt :=
    ⟨least, Int.lt_add_one_iff.mp greatest⟩
  rw [int64?, if_pos bounds]
  rfl

/-- A quotient that leaves a rest has a divisor of at least two, so it is far from the ends of the
range. -/
theorem natAbs_quotient_le {a b : Int64} (rest : a % b ≠ 0) :
    (a.toInt.tdiv b.toInt).natAbs ≤ 4611686018427387904 := by
  have divisor : b.toInt.natAbs ≠ 1 := by
    intro unit
    apply rest
    have even : a.toInt.tmod b.toInt = 0 := by
      rw [← Int.natAbs_eq_zero, Int.natAbs_tmod, unit, Nat.mod_one]
    rw [← Int64.toInt_inj, Int64.toInt_mod, even]
    rfl
  have least := a.le_toInt
  have greatest := a.toInt_lt
  have magnitudes : (a.toInt.tdiv b.toInt).natAbs = a.toInt.natAbs / b.toInt.natAbs :=
    Int.natAbs_tdiv _ _
  rw [magnitudes]
  rcases Nat.lt_or_ge b.toInt.natAbs 2 with small | large
  · have zero : b.toInt.natAbs = 0 := by omega
    rw [zero, Nat.div_zero]
    exact Nat.zero_le _
  · calc a.toInt.natAbs / b.toInt.natAbs
        ≤ a.toInt.natAbs / 2 := Nat.div_le_div_left large (by decide)
      _ ≤ 4611686018427387904 := by omega

/-- Division rounded down has no step that leaves the range. -/
theorem isSome_floorDivide (a b : Int64) : (floorDivide a b).isSome = true := by
  unfold floorDivide
  split
  · rfl
  · cases divided : quotient? a b with
    | none => rfl
    | some quotient =>
        simp only [rest?, divided, Option.map_some, Option.bind_some]
        split
        · next corrected =>
            -- The quotient is less than half the range below zero, so the next lower integer is
            -- there.
            have quotientEq : quotient.toInt = a.toInt.tdiv b.toInt := by
              rw [quotient?] at divided
              split at divided
              · cases divided
              · exact toInt_of_int64? divided
            have bound := natAbs_quotient_le corrected.1
            rw [Option.isSome_map]
            have one : (1 : Int64).toInt = 1 := rfl
            exact isSome_int64? (by omega) (by omega)
        · rfl

/-- The remainder has no step that leaves the range. -/
theorem isSome_remainder (a b : Int64) : (remainder a b).isSome = true := by
  unfold remainder
  split
  · rfl
  · simp only
    split
    · next corrected =>
        -- Integers of different signs have a sum between them.
        generalize (rest? a b).getD 0 = rest at corrected
        have signs := corrected.2
        rw [Int64.lt_iff_toInt_lt, Int64.lt_iff_toInt_lt, Int64.toInt_zero] at signs
        have restLeast := rest.le_toInt
        have restGreatest := rest.toInt_lt
        have divisorLeast := b.le_toInt
        have divisorGreatest := b.toInt_lt
        rw [Option.isSome_map]
        exact isSome_int64? (by omega) (by omega)
    · rfl

/-- A count that is neither negative nor too large is less than the width. -/
theorem inWidth {b : Int64} (notNegative : ¬b < 0) (small : ¬64 ≤ b) : 0 ≤ b ∧ b < 64 :=
  ⟨Int64.not_lt.mp notNegative, Int64.not_le.mp small⟩

/-- A shift to the left has no step that leaves the range. -/
theorem isSome_shiftLeft (a b : Int64) : (shiftLeft a b).isSome = true := by
  unfold shiftLeft
  split
  · rfl
  · next notNegative =>
      split
      · rfl
      · split
        · rfl
        · next small => simp [moveUp?, moveDown?, inWidth notNegative small]

/-- A shift to the right has no step that leaves the range. -/
theorem isSome_shiftRight (a b : Int64) : (shiftRight a b).isSome = true := by
  unfold shiftRight
  split
  · rfl
  · next notNegative =>
      split
      · rfl
      · next small => simp [moveDown?, inWidth notNegative small]

end Reckon.Integer
