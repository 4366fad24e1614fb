/-
Module: Reckon.Proofs.RoundingIntervals
Purpose: The decimal that stands for a float stands for no other. The decimal is found in the
  interval of the numbers that round to the float, or it is the float itself, which lies there too.
  The intervals of two floats have no number in common: where they touch, one of the two
  significands is odd, and that interval leaves out its ends.
Main exports: Decimal.value, Magnitude.Rounds, Magnitude.rounds_shortest, Magnitude.Canonical,
  Magnitude.eq_of_shortest_value_eq
-/
import Mathlib.Algebra.Order.Field.Power
import Mathlib.Data.Rat.Floor
import Mathlib.Tactic.Linarith
import Mathlib.Tactic.Positivity
import Mathlib.Tactic.Ring
import Reckon.Number.Shortest

namespace Reckon

/-! ### Comparing with decimals -/

/-- The number that a decimal stands for. -/
def Decimal.value (d : Decimal) : ℚ :=
  d.coefficient * 10 ^ d.exponent

theorem zpow_mul_pow_toNat {b : ℚ} (nonzero : b ≠ 0) (k : Int) :
    b ^ k * b ^ (-k).toNat = b ^ k.toNat := by
  rw [← zpow_natCast, ← zpow_natCast, ← zpow_add₀ nonzero]
  congr 1
  omega

/-- Multiplied up to whole numbers, two numbers compare as they did before. -/
theorem compareScaled_eq (c : Nat) (k : Int) (t : Nat) (e : Int) :
    compareScaled c k t e = compare ((c : ℚ) * 10 ^ k) (t * 2 ^ e) := by
  have positive : (0 : ℚ) < 10 ^ (-k).toNat * 2 ^ (-e).toNat := by positivity
  have left : ((c * Nat.pow 10 k.toNat * Nat.pow 2 (-e).toNat : Nat) : ℚ) =
      c * 10 ^ k * (10 ^ (-k).toNat * 2 ^ (-e).toNat) := by
    rw [Nat.pow_eq, Nat.pow_eq]
    push_cast
    rw [← zpow_mul_pow_toNat (by norm_num : (10 : ℚ) ≠ 0) k]
    ring
  have right : ((t * Nat.pow 2 e.toNat * Nat.pow 10 (-k).toNat : Nat) : ℚ) =
      t * 2 ^ e * (10 ^ (-k).toNat * 2 ^ (-e).toNat) := by
    rw [Nat.pow_eq, Nat.pow_eq]
    push_cast
    rw [← zpow_mul_pow_toNat (by norm_num : (2 : ℚ) ≠ 0) e]
    ring
  unfold compareScaled
  rcases lt_trichotomy ((c : ℚ) * 10 ^ k) (t * 2 ^ e) with less | same | greater
  · rw [compare_lt_iff_lt.mpr less, compare_lt_iff_lt, ← Nat.cast_lt (α := ℚ), left, right]
    exact mul_lt_mul_of_pos_right less positive
  · rw [compare_eq_iff_eq.mpr same, compare_eq_iff_eq, ← Nat.cast_inj (R := ℚ), left, right, same]
  · rw [compare_gt_iff_gt.mpr greater, compare_gt_iff_gt, ← Nat.cast_lt (α := ℚ), left, right]
    exact mul_lt_mul_of_pos_right greater positive

namespace Magnitude

/-! ### Intervals -/

/-- The number itself. -/
def value (x : Magnitude) : ℚ :=
  x.significand * 2 ^ x.exponent

/-- The lower end of the interval of `x`. -/
def low (x : Magnitude) : ℚ :=
  (4 * x.significand - x.reachDown : Nat) * 2 ^ (x.exponent - 2)

/-- The upper end of the interval of `x`. -/
def high (x : Magnitude) : ℚ :=
  (4 * x.significand + 2 : Nat) * 2 ^ (x.exponent - 2)

/-- The numbers that round to `x`: the ends belong to them if the significand is even. -/
structure Rounds (x : Magnitude) (r : ℚ) : Prop where
  low_le : x.low ≤ r
  le_high : r ≤ x.high
  inside : x.significand % 2 = 1 → x.low < r ∧ r < x.high

/-- The comparison of integers decides whether a decimal rounds to the float. -/
theorem covers_iff (x : Magnitude) (c : Nat) (k : Int) :
    x.covers c k = true ↔ x.Rounds (Decimal.value ⟨c, k⟩) := by
  have lower : compareScaled c k (4 * x.significand - x.reachDown) (x.exponent - 2) =
      compare (Decimal.value ⟨c, k⟩) x.low := compareScaled_eq _ _ _ _
  have upper : compareScaled c k (4 * x.significand + 2) (x.exponent - 2) =
      compare (Decimal.value ⟨c, k⟩) x.high := compareScaled_eq _ _ _ _
  simp only [covers, lower, upper]
  split
  · next even =>
      simp only [Bool.and_eq_true, bne_iff_ne, ne_eq, compare_lt_iff_lt, compare_gt_iff_gt, not_lt]
      constructor
      · rintro ⟨low_le, le_high⟩
        exact ⟨low_le, le_high, fun odd => by omega⟩
      · rintro ⟨low_le, le_high, _⟩
        exact ⟨low_le, le_high⟩
  · next odd =>
      simp only [Bool.and_eq_true, beq_iff_eq, compare_lt_iff_lt, compare_gt_iff_gt]
      constructor
      · rintro ⟨above, below⟩
        exact ⟨above.le, below.le, fun _ => ⟨above, below⟩⟩
      · rintro ⟨_, _, inside⟩
        exact inside (by omega)

theorem reachDown_le (x : Magnitude) : x.reachDown ≤ 2 := by
  unfold reachDown
  split <;> omega

theorem reachDown_pos (x : Magnitude) : 0 < x.reachDown := by
  unfold reachDown
  split <;> omega

/-- A positive number rounds to itself. -/
theorem rounds_value {x : Magnitude} (positive : 0 < x.significand) : x.Rounds x.value := by
  have quarters : x.value = (4 * x.significand : Nat) * 2 ^ (x.exponent - 2) := by
    have split : x.exponent = x.exponent - 2 + 2 := by omega
    rw [value]
    nth_rewrite 1 [split]
    rw [zpow_add₀ (by norm_num)]
    push_cast
    ring
  have unit : (0 : ℚ) < 2 ^ (x.exponent - 2) := zpow_pos (by norm_num) _
  have above : x.low < x.value := by
    rw [low, quarters]
    apply mul_lt_mul_of_pos_right _ unit
    have reach := x.reachDown_pos
    exact_mod_cast (show 4 * x.significand - x.reachDown < 4 * x.significand by omega)
  have below : x.value < x.high := by
    rw [high, quarters]
    apply mul_lt_mul_of_pos_right _ unit
    exact_mod_cast Nat.lt_add_of_pos_right (by decide)
  exact ⟨above.le, below.le, fun _ => ⟨above, below⟩⟩

/-! ### The shortest decimal -/

/-- The exact decimal of a float has its value. -/
theorem value_exact (x : Magnitude) : x.exact.value = x.value := by
  unfold exact value Decimal.value
  simp only [Nat.pow_eq]
  push_cast
  rcases le_total 0 x.exponent with whole | fraction
  · obtain ⟨n, exponentEq⟩ := Int.eq_ofNat_of_zero_le whole
    simp [exponentEq]
  · obtain ⟨n, exponentEq⟩ := Int.exists_eq_neg_ofNat fraction
    have tenth : (10 : ℚ) ^ n = 2 ^ n * 5 ^ n := by
      rw [← mul_pow]
      norm_num
    rw [exponentEq, min_eq_left (by omega), neg_neg, Int.toNat_natCast, zpow_neg, zpow_neg,
      zpow_natCast, zpow_natCast, tenth]
    have noPower : (-(n : Int)).toNat = 0 := by omega
    rw [noPower]
    field_simp

/-- A point that the search finds rounds to the float. -/
theorem covers_of_pointAt? {x : Magnitude} {k : Int} {c : Nat} (found : x.pointAt? k = some c) :
    x.covers c k = true := by
  unfold pointAt? at found
  dsimp only at found
  split at found
  · next lower upper =>
      split at found <;> cases found
      · exact lower
      · exact upper
  · next lower _ =>
      cases found
      exact lower
  · next _ upper =>
      cases found
      exact upper
  · cases found

/-- What the search ends with rounds to the float, at the latest the exact decimal. -/
theorem rounds_search {x : Magnitude} (positive : 0 < x.significand) (steps : Nat) (k : Int) :
    x.Rounds (x.search steps k).value := by
  induction steps generalizing k with
  | zero =>
      rw [search, value_exact]
      exact rounds_value positive
  | succ steps inductionHypothesis =>
      rw [search]
      split
      · next c found => exact (x.covers_iff c k).mp (covers_of_pointAt? found)
      · exact inductionHypothesis (k - 1)

/-- The shortest decimal of a number rounds to it. -/
theorem rounds_shortest {x : Magnitude} (positive : 0 < x.significand) :
    x.Rounds x.shortest.value :=
  rounds_search positive 18 x.pointPlace

/-- The shortest decimal of a positive float is positive. -/
theorem shortest_value_pos {x : Magnitude} (positive : 0 < x.significand) :
    0 < x.shortest.value := by
  have reach := x.reachDown_le
  have lowPos : 0 < x.low := by
    apply mul_pos _ (zpow_pos (by norm_num) _)
    exact_mod_cast (show 0 < 4 * x.significand - x.reachDown by omega)
  exact lowPos.trans_le (rounds_shortest positive).low_le

/-! ### Intervals of floats -/

/-- The form that the fields of a positive float give: the significand has 53 bits, unless the
exponent is the least. -/
structure Canonical (x : Magnitude) : Prop where
  positive : 0 < x.significand
  bounded : x.significand < 2 ^ 53
  least : -1074 ≤ x.exponent
  normal : -1074 < x.exponent → 2 ^ 52 ≤ x.significand

/-- The order of the floats by their fields. -/
def Below (x y : Magnitude) : Prop :=
  x.exponent < y.exponent ∨ x.exponent = y.exponent ∧ x.significand < y.significand

/-- Of two different magnitudes one is below the other. -/
theorem below_total {x y : Magnitude} (different : x ≠ y) : x.Below y ∨ y.Below x := by
  obtain ⟨m, e⟩ := x
  obtain ⟨n, f⟩ := y
  simp only [ne_eq, Magnitude.mk.injEq, not_and] at different
  simp only [Below]
  omega

/-- The interval of the lower float ends where that of the higher begins, or before. They touch only
if one of the significands is odd. -/
theorem high_le_low {x y : Magnitude} (xForm : x.Canonical) (yForm : y.Canonical)
    (below : x.Below y) :
    x.high ≤ y.low ∧ (x.significand % 2 = 0 → y.significand % 2 = 0 → x.high < y.low) := by
  have unit : (0 : ℚ) < 2 ^ (y.exponent - 2) := zpow_pos (by norm_num) _
  have reach := y.reachDown_le
  rcases below with lower | ⟨same, less⟩
  · -- The unit of the higher float is at least twice as large, so its half is at least the lower
    -- unit.
    have bound := xForm.bounded
    have normal := yForm.normal (lt_of_le_of_lt xForm.least lower)
    have halfUnit : x.high ≤ (2 * x.significand + 1 : Nat) * 2 ^ (y.exponent - 2) := by
      have doubled : (2 : ℚ) * 2 ^ (x.exponent - 2) ≤ 2 ^ (y.exponent - 2) := by
        rw [mul_comm, ← zpow_add_one₀ (by norm_num)]
        exact zpow_le_zpow_right₀ (by norm_num) (by omega)
      calc x.high = (2 * x.significand + 1 : Nat) * (2 * 2 ^ (x.exponent - 2)) := by
            rw [high]
            push_cast
            ring
        _ ≤ _ := mul_le_mul_of_nonneg_left doubled (Nat.cast_nonneg _)
    have lowest : 2 ^ 54 - 1 ≤ 4 * y.significand - y.reachDown := by
      by_cases least : y.significand = 2 ^ 52
      · have reachEq : y.reachDown = 1 := if_pos ⟨least, lt_of_le_of_lt xForm.least lower⟩
        omega
      · omega
    constructor
    · refine halfUnit.trans (mul_le_mul_of_nonneg_right ?_ unit.le)
      exact_mod_cast (show 2 * x.significand + 1 ≤ 4 * y.significand - y.reachDown by omega)
    · intro even _
      refine halfUnit.trans_lt (mul_lt_mul_of_pos_right ?_ unit)
      exact_mod_cast (show 2 * x.significand + 1 < 4 * y.significand - y.reachDown by omega)
  · rw [high, low, same]
    constructor
    · refine mul_le_mul_of_nonneg_right ?_ unit.le
      exact_mod_cast (show 4 * x.significand + 2 ≤ 4 * y.significand - y.reachDown by omega)
    · intro _ _
      refine mul_lt_mul_of_pos_right ?_ unit
      exact_mod_cast (show 4 * x.significand + 2 < 4 * y.significand - y.reachDown by omega)

/-- What rounds to the lower of two floats is less than what rounds to the higher. -/
theorem Rounds.lt {x y : Magnitude} {r s : ℚ} (inX : x.Rounds r) (inY : y.Rounds s)
    (xForm : x.Canonical) (yForm : y.Canonical) (below : x.Below y) : r < s := by
  obtain ⟨touch, apart⟩ := high_le_low xForm yForm below
  rcases Nat.mod_two_eq_zero_or_one x.significand with xEven | xOdd
  · rcases Nat.mod_two_eq_zero_or_one y.significand with yEven | yOdd
    · exact inX.le_high.trans_lt ((apart xEven yEven).trans_le inY.low_le)
    · exact (inX.le_high.trans touch).trans_lt (inY.inside yOdd).1
  · exact (inX.inside xOdd).2.trans_le (touch.trans inY.low_le)

/-- Floats with the same shortest decimal, or with shortest decimals of one value, are the same. -/
theorem eq_of_shortest_value_eq {x y : Magnitude} (xForm : x.Canonical) (yForm : y.Canonical)
    (same : x.shortest.value = y.shortest.value) : x = y := by
  have inX := rounds_shortest xForm.positive
  have inY := rounds_shortest yForm.positive
  by_contra different
  rcases below_total different with below | below
  · exact (inX.lt inY xForm yForm below).ne same
  · exact (inY.lt inX yForm xForm below).ne same.symm

end Magnitude

end Reckon
