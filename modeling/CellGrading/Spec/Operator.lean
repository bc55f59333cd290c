import CellGrading.Decimal.Basic

/-!
# Comparison operators

The operators that a cell can ask for: those that compare the actual number with
an operand, and the two that bound an interval.
-/

namespace CellGrading

inductive RelationalOp where
  | lt
  | le
  | gt
  | ge
  | eq
  deriving DecidableEq, Repr

inductive BoundOp where
  | lt
  | le
  deriving DecidableEq, Repr

namespace RelationalOp

def symbol : RelationalOp → String
  | .lt => "<"
  | .le => "<="
  | .gt => ">"
  | .ge => ">="
  | .eq => "="

def ofSymbol? : String → Option RelationalOp
  | "<" => some .lt
  | "<=" => some .le
  | ">" => some .gt
  | ">=" => some .ge
  | "=" => some .eq
  | _ => none

def name : RelationalOp → String
  | .lt => "lt"
  | .le => "le"
  | .gt => "gt"
  | .ge => "ge"
  | .eq => "eq"

/-- Whether `actual operator operand` holds between the values. -/
def holds : RelationalOp → Decimal → Decimal → Bool
  | .lt, actual, operand => actual.lt operand
  | .le, actual, operand => actual.le operand
  | .gt, actual, operand => operand.lt actual
  | .ge, actual, operand => operand.le actual
  | .eq, actual, operand => actual.same operand

end RelationalOp

namespace BoundOp

def symbol : BoundOp → String
  | .lt => "<"
  | .le => "<="

def ofSymbol? : String → Option BoundOp
  | "<" => some .lt
  | "<=" => some .le
  | _ => none

def name : BoundOp → String
  | .lt => "lt"
  | .le => "le"

/-- Whether `left operator right` holds between the values. -/
def holds : BoundOp → Decimal → Decimal → Bool
  | .lt, left, right => left.lt right
  | .le, left, right => left.le right

@[simp] theorem ofSymbol?_symbol (op : BoundOp) : ofSymbol? op.symbol = some op := by
  cases op <;> rfl

end BoundOp

end CellGrading
