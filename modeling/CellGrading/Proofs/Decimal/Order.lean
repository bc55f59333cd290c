import CellGrading.Proofs.Decimal.Spelling
import CellGrading.Spec.Operator
import Mathlib.Algebra.Order.Field.Basic
import Mathlib.Data.Rat.Cast.Order
import Mathlib.Tactic.NormNum

/-!
# Order of decimals

Decimals of any two scales compare as the rationals that they are, and so the
operators of cells hold between decimals when they hold between rationals.
-/

namespace CellGrading

namespace Decimal

theorem lt_eq_true_iff (left right : Decimal) :
    left.lt right = true ↔ left.toRat < right.toRat := by
  rw [lt, decide_eq_true_iff, toRat_eq_div, toRat_eq_div,
    div_lt_div_iff₀ (by positivity) (by positivity)]
  exact_mod_cast Iff.rfl

theorem le_eq_true_iff (left right : Decimal) :
    left.le right = true ↔ left.toRat ≤ right.toRat := by
  rw [le, decide_eq_true_iff, toRat_eq_div, toRat_eq_div,
    div_le_div_iff₀ (by positivity) (by positivity)]
  exact_mod_cast Iff.rfl

theorem same_eq_true_iff (left right : Decimal) :
    left.same right = true ↔ left.toRat = right.toRat := by
  rw [same, decide_eq_true_iff, toRat_eq_div, toRat_eq_div,
    div_eq_div_iff (by positivity) (by positivity)]
  exact_mod_cast Iff.rfl

end Decimal

def RelationalOp.compares : RelationalOp → ℚ → ℚ → Bool
  | .lt, x, y => decide (x < y)
  | .le, x, y => decide (x ≤ y)
  | .gt, x, y => decide (x > y)
  | .ge, x, y => decide (x ≥ y)
  | .eq, x, y => decide (x = y)

theorem RelationalOp.holds_eq_compares (op : RelationalOp) (actual operand : Decimal) :
    op.holds actual operand = op.compares actual.toRat operand.toRat := by
  rw [Bool.eq_iff_iff]
  cases op <;>
    simp [holds, compares, Decimal.lt_eq_true_iff, Decimal.le_eq_true_iff,
      Decimal.same_eq_true_iff]

def BoundOp.toRelational : BoundOp → RelationalOp
  | .lt => .lt
  | .le => .le

theorem BoundOp.holds_eq_compares (op : BoundOp) (left right : Decimal) :
    op.holds left right = op.toRelational.compares left.toRat right.toRat := by
  rw [← RelationalOp.holds_eq_compares]
  cases op <;> rfl

end CellGrading
