import CellGrading.Verdict.Grading

/-!
# Expectations

An expectation ties a verdict to the cell of a table that it is about.
-/

namespace CellGrading

structure Expectation where
  instructionId : String
  column : Nat
  row : Nat
  verdict : Verdict
deriving DecidableEq, Repr

namespace Expectation

def outcome (expectation : Expectation) : Outcome := expectation.verdict.outcome

def message (expectation : Expectation) : String := expectation.verdict.message

def grade [Pattern.Engine] (instructionId : String) (column row : Nat)
    (expected actual : String) (lookup : Lookup) : Except Pattern.Invalid Expectation := do
  let verdict ← evaluate expected actual lookup
  return ⟨instructionId, column, row, verdict⟩

end Expectation

end CellGrading
