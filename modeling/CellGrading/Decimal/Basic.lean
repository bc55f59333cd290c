/-!
# Decimal numbers

A decimal is a whole number of units of ten to the minus `scale`.  Two decimals
of different scale can have one value; order and equality of values are those
of the rationals, found by bringing both numbers to one scale.
-/

namespace CellGrading

/-- The number `unscaled / 10 ^ scale`. -/
structure Decimal where
  unscaled : Int
  scale : Nat
deriving DecidableEq, Repr, Inhabited

namespace Decimal

def toRat (number : Decimal) : Rat := mkRat number.unscaled (Nat.pow 10 number.scale)

/-! ## Comparison by value -/

def lt (left right : Decimal) : Bool :=
  decide (left.unscaled * Nat.pow 10 right.scale < right.unscaled * Nat.pow 10 left.scale)

def le (left right : Decimal) : Bool :=
  decide (left.unscaled * Nat.pow 10 right.scale ≤ right.unscaled * Nat.pow 10 left.scale)

/-- Equality of values: `3`, `3.0` and `03` are the same. -/
def same (left right : Decimal) : Bool :=
  decide (left.unscaled * Nat.pow 10 right.scale = right.unscaled * Nat.pow 10 left.scale)

theorem not_lt (left right : Decimal) : (!left.lt right) = right.le left := by
  simp only [lt, le, ← decide_not, Int.not_lt]

theorem not_le (left right : Decimal) : (!left.le right) = right.lt left := by
  simp only [lt, le, ← decide_not, Int.not_le]

theorem same_comm (left right : Decimal) : left.same right = right.same left := by
  simp [same, eq_comm]

/-! ## Plain text -/

def paddedDigits (width : Nat) (number : Nat) : List Char :=
  let digits := Nat.toDigits 10 number
  List.replicate (width - digits.length) '0' ++ digits

/-- All digits without an exponent: at least one before the point, and `scale`
digits after it. -/
def toChars (number : Decimal) : List Char :=
  let digits := paddedDigits (number.scale + 1) number.unscaled.natAbs
  let whole := digits.take (digits.length - number.scale)
  let fraction := digits.drop (digits.length - number.scale)
  (if number.unscaled < 0 then ['-'] else []) ++ whole ++
    (if number.scale = 0 then [] else '.' :: fraction)

def toPlainText (number : Decimal) : String := .ofList number.toChars

end Decimal

end CellGrading
