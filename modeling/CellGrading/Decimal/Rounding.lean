import CellGrading.Decimal.Basic

/-!
# Rounding to a number of places

`roundTo` gives the nearest decimal with the asked number of digits after the
point; a number half way between two such decimals goes away from zero.
-/

namespace CellGrading.Decimal

/-- The whole number nearest to `number / unit`, half way going away from zero. -/
def nearestMultiple (number : Int) (unit : Nat) : Int :=
  number.sign * ((2 * number.natAbs + unit) / (2 * unit) : Nat)

def roundTo (number : Decimal) (places : Nat) : Decimal where
  unscaled :=
    if number.scale ≤ places then number.unscaled * Nat.pow 10 (places - number.scale)
    else nearestMultiple number.unscaled (Nat.pow 10 (number.scale - places))
  scale := places

@[simp] theorem scale_roundTo (number : Decimal) (places : Nat) :
    (number.roundTo places).scale = places := rfl

end CellGrading.Decimal
