import CellGrading.Decimal.Rounding
import CellGrading.Proofs.Decimal.Order
import Mathlib.Algebra.Order.Ring.Abs
import Mathlib.Tactic.Linarith

/-!
# Rounding as a distance

A decimal that is rounded to a number of places becomes the nearest multiple of
the unit of that place.  Of two multiples that are equally near it becomes the one
further from zero.
-/

namespace CellGrading

namespace Decimal

/-! ## Whole multiples -/

theorem nearestMultiple_neg (number : Int) (unit : Nat) :
    nearestMultiple (-number) unit = -nearestMultiple number unit := by
  simp [nearestMultiple]

theorem nearestMultiple_one (number : Int) : nearestMultiple number 1 = number := by
  have hhalf : (2 * number.natAbs + 1) / (2 * 1) = number.natAbs := by omega
  rw [nearestMultiple, hhalf, Int.sign_mul_natAbs]

theorem nearestMultiple_natCast (number : Nat) {unit : Nat} (hunit : 0 < unit) :
    nearestMultiple number unit = (2 * number + unit) / (2 * unit) := by
  rcases Nat.eq_zero_or_pos number with rfl | hpos
  · have hzero : (unit : Int) / (2 * unit) = 0 := by
      apply Int.ediv_eq_zero_of_lt <;> omega
    simp [nearestMultiple, hzero]
  · have hsign : (number : Int).sign = 1 := Int.sign_eq_one_of_pos (by omega)
    rw [nearestMultiple, hsign, one_mul, Int.natAbs_natCast]
    push_cast
    rfl

/-- The multiple that a number of zero or more is rounded to, by the bounds that it
keeps to: half a unit up is still rounded down to it, half a unit down is not. -/
theorem nearestMultiple_natCast_eq_iff (number : Nat) {unit : Nat} (hunit : 0 < unit)
    (k : Int) :
    nearestMultiple number unit = k ↔
      2 * (k * unit) ≤ 2 * number + unit ∧ 2 * (number : Int) < 2 * (k * unit) + unit := by
  rw [nearestMultiple_natCast number hunit, Int.ediv_eq_iff_of_pos (by omega)]
  constructor
  · rintro ⟨hlow, hhigh⟩
    constructor <;> linarith
  · rintro ⟨hlow, hhigh⟩
    constructor <;> linarith

private theorem bounds_iff_distance {number multiple unit : Int} (hnumber : 0 ≤ number)
    (hunit : 0 < unit) (hmultiple : 0 ≤ multiple ∨ multiple ≤ -unit) :
    (2 * multiple ≤ 2 * number + unit ∧ 2 * number < 2 * multiple + unit) ↔
      |2 * number - 2 * multiple| < unit ∨
        |2 * number - 2 * multiple| = unit ∧ |number| < |multiple| := by
  rcases abs_cases (2 * number - 2 * multiple) with hd | hd <;>
    rcases abs_cases number with hn | hn <;>
    rcases abs_cases multiple with hm | hm <;> omega

/-- The distance to the nearest multiple is at most half a unit; where it is half a
unit, the multiple is the one further from zero. -/
theorem nearestMultiple_eq_iff (number : Int) {unit : Nat} (hunit : 0 < unit) (k : Int) :
    nearestMultiple number unit = k ↔
      |2 * number - 2 * (k * unit)| < unit ∨
        |2 * number - 2 * (k * unit)| = unit ∧ |number| < |k * unit| := by
  have hpos : (0 : Int) < unit := by exact_mod_cast hunit
  have hmultiple (k : Int) : 0 ≤ k * unit ∨ k * unit ≤ -unit := by
    rcases lt_or_ge k 0 with hk | hk
    · exact .inr (by nlinarith)
    · exact .inl (by positivity)
  obtain ⟨size, rfl | rfl⟩ := number.eq_nat_or_neg
  · rw [nearestMultiple_natCast_eq_iff size hunit,
      bounds_iff_distance (by positivity) hpos (hmultiple k)]
  · have hdistance : |2 * -(size : Int) - 2 * (k * unit)| =
        |2 * (size : Int) - 2 * (-k * unit)| := by
      rw [← abs_neg]
      congr 1
      ring
    have hsize : |k * (unit : Int)| = |-k * unit| := by
      rw [neg_mul, abs_neg]
    rw [nearestMultiple_neg, neg_eq_iff_eq_neg, nearestMultiple_natCast_eq_iff size hunit,
      bounds_iff_distance (by positivity) hpos (hmultiple (-k)), hdistance, hsize, abs_neg]

/-! ## Decimals -/

theorem unscaled_roundTo (number : Decimal) (places : Nat) :
    (number.roundTo places).unscaled =
      nearestMultiple (number.unscaled * 10 ^ (places - number.scale))
        (10 ^ (number.scale - places)) := by
  by_cases h : number.scale ≤ places
  · rw [Nat.sub_eq_zero_of_le h, pow_zero, nearestMultiple_one]
    simp [roundTo, h]
  · rw [Nat.sub_eq_zero_of_le (by omega), pow_zero, mul_one]
    simp [roundTo, h]

theorem toRat_mul_pow (number : Decimal) (places : Nat) :
    number.toRat * 10 ^ places =
      ((number.unscaled * 10 ^ (places - number.scale) : Int) : ℚ) /
        ((10 ^ (number.scale - places) : Nat) : ℚ) := by
  rw [toRat_eq_div]
  push_cast
  rw [div_mul_eq_mul_div, div_eq_div_iff (by positivity) (by positivity), mul_assoc,
    mul_assoc, ← pow_add, ← pow_add]
  congr 2
  omega

/-- Rounding gives the multiple `k` of the unit when the number is less than half a
unit from it, or just half a unit and nearer to zero. -/
theorem toRat_roundTo_eq_iff (number : Decimal) (places : Nat) (k : Int) :
    (number.roundTo places).toRat = k / 10 ^ places ↔
      |number.toRat - k / 10 ^ places| < 1 / 10 ^ places / 2 ∨
        |number.toRat - k / 10 ^ places| = 1 / 10 ^ places / 2 ∧
          |number.toRat| < |(k : ℚ) / 10 ^ places| := by
  have hround : (number.roundTo places).toRat = k / 10 ^ places ↔
      (number.roundTo places).unscaled = k := by
    rw [toRat_eq_div, scale_roundTo, div_left_inj' (by positivity)]
    exact_mod_cast Iff.rfl
  have hunits := toRat_mul_pow number places
  rw [hround, unscaled_roundTo]
  -- In units of the place the number is `whole / unit` and the multiple is `k`.
  generalize number.unscaled * 10 ^ (places - number.scale) = whole at hunits ⊢
  have hunit : 0 < 10 ^ (number.scale - places) := by positivity
  generalize 10 ^ (number.scale - places) = unit at hunits hunit ⊢
  have hunit' : (0 : ℚ) < unit := by exact_mod_cast hunit
  have hpow : (0 : ℚ) < 10 ^ places := by positivity
  have hnumber : number.toRat = whole / (unit * 10 ^ places) := by
    rw [← div_div, ← hunits, mul_div_cancel_right₀ _ hpow.ne']
  have hmultiple : (k : ℚ) / 10 ^ places = (k * unit) / (unit * 10 ^ places) := by
    field_simp
  have hhalf : (1 : ℚ) / 10 ^ places / 2 = unit / (2 * (unit * 10 ^ places)) := by
    field_simp
  have hdistance : |number.toRat - k / 10 ^ places| =
      |2 * (whole : ℚ) - 2 * (k * unit)| / (2 * (unit * 10 ^ places)) := by
    rw [hnumber, hmultiple, ← sub_div, ← mul_sub, ← mul_div_mul_left _ _ (two_ne_zero' ℚ),
      abs_div, abs_of_pos (show (0 : ℚ) < 2 * (unit * 10 ^ places) by positivity)]
  rw [nearestMultiple_eq_iff whole hunit, hdistance, hhalf, hnumber, hmultiple, abs_div,
    abs_div, div_lt_div_iff_of_pos_right (by positivity), div_left_inj' (by positivity),
    div_lt_div_iff_of_pos_right (by positivity)]
  exact_mod_cast Iff.rfl

theorem toRat_roundTo_congr {first second : Decimal} (h : first.toRat = second.toRat)
    (places : Nat) : (first.roundTo places).toRat = (second.roundTo places).toRat := by
  obtain ⟨k, hk⟩ : ∃ k : Int, (second.roundTo places).toRat = k / 10 ^ places :=
    ⟨_, by rw [toRat_eq_div, scale_roundTo]⟩
  rw [hk, toRat_roundTo_eq_iff, h, ← toRat_roundTo_eq_iff, hk]

end Decimal

end CellGrading
