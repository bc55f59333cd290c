import CellGrading.Decimal.Rounding
import CellGrading.Pattern.Engine
import CellGrading.Spec.Classification
import CellGrading.Symbol.Substitution
import CellGrading.Verdict.Basic

/-!
# Grading

An actual value is graded against a spec: each form of spec says when it passes
and what is said of it.  Only a pattern that the engine refuses keeps a value from
being graded.  A numeric spec fails on a value that is no number, negated or not.
-/

namespace CellGrading

namespace Grading

/-! ## Matching -/

def between (low : Literal) (lowOp highOp : BoundOp) (high : Literal) (number : Decimal) : Bool :=
  lowOp.holds low.value number && highOp.holds number high.value

/-- Whether a number, rounded to the written places of a literal, equals it. -/
def roundsTo (literal : Literal) (number : Decimal) : Bool :=
  (number.roundTo (decimalPlaces literal.text)).same literal.value

def numberWith (actual : String) (test : Decimal → Bool) : Bool :=
  (Decimal.ofText? actual).any test

/-- Whether two texts are equal, by value if both are numbers. -/
def equalTexts (expected actual : String) : Bool :=
  match Decimal.ofText? expected, Decimal.ofText? actual with
  | some expected, some actual => expected.same actual
  | _, _ => expected == actual

/-! ## Messages -/

def negationMark (negated : Bool) : String := if negated then "!" else ""

def matched (found : Bool) (kind : SpecKind) (message expected actual : String) : Verdict where
  outcome := .ofMatch found
  message := message
  kind := kind
  expected := expected
  actual := actual
  binding := none

def compared (found : Bool) (kind : SpecKind) (comparison specText actual : String) : Verdict :=
  matched found kind ((if found then "pass(" else "fail(") ++ comparison ++ ")")
    (Text.trim specText) actual

/-! ## The forms of spec -/

def blank (actual : String) : Verdict where
  outcome := if actual.isEmpty then .pass else .ignore
  message := if actual.isEmpty then "pass(BLANK)" else "ignore(" ++ actual ++ ")"
  kind := .blank
  expected := ""
  actual := actual
  binding := none

def capture (symbol specText actual : String) : Verdict where
  outcome := .ignore
  message := "$" ++ symbol ++ "<-[" ++ actual ++ "]"
  kind := .capture
  expected := Text.trim specText
  actual := actual
  binding := some ⟨symbol, actual⟩

def regex [Pattern.Engine] (pattern specText actual : String) : Except Pattern.Invalid Verdict := do
  let found ← Pattern.search pattern actual
  let message := if found then "pass(/" ++ pattern ++ "/ found in: " ++ actual ++ ")"
    else "fail(/" ++ pattern ++ "/ not found in: " ++ actual ++ ")"
  return matched found .regex message (Text.trim specText) actual

def interval (low : Literal) (lowOp highOp : BoundOp) (high : Literal)
    (specText actual : String) : Verdict :=
  compared (numberWith actual (between low lowOp highOp high)) .interval
    (low.text ++ lowOp.symbol ++ actual ++ highOp.symbol ++ high.text) specText actual

def relational (op : RelationalOp) (negated : Bool) (operand : Literal)
    (specText actual : String) : Verdict :=
  compared (numberWith actual fun number => op.holds number operand.value != negated) .relational
    (actual ++ negationMark negated ++ op.symbol ++ operand.text) specText actual

def approx (negated : Bool) (operand : Literal) (specText actual : String) : Verdict :=
  compared (numberWith actual fun number => roundsTo operand number != negated) .approx
    (actual ++ negationMark negated ++ "~=" ++ operand.text) specText actual

def plain (text : String) (lookup : Lookup) (actual : String) : Verdict :=
  let expected := substitute text lookup
  let found := equalTexts expected.compare actual
  let message := if found then "pass(" ++ expected.display ++ ")"
    else "[" ++ actual ++ "] fail(expected [" ++ expected.display ++ "])"
  matched found .plain message expected.display actual

theorem outcome_plain (text : String) (lookup : Lookup) (actual : String) :
    (plain text lookup actual).outcome =
      .ofMatch (equalTexts (substitute text lookup).compare actual) := by
  simp only [plain, matched]

end Grading

/-- Grades an actual value.  The text of the cell is only for display: what is
asked is the spec. -/
def Spec.grade [Pattern.Engine] (spec : Spec) (specText actual : String) (lookup : Lookup) :
    Except Pattern.Invalid Verdict :=
  match spec with
  | .blank => .ok (Grading.blank actual)
  | .capture symbol => .ok (Grading.capture symbol specText actual)
  | .regex pattern => Grading.regex pattern specText actual
  | .interval low lowOp highOp high =>
      .ok (Grading.interval low lowOp highOp high specText actual)
  | .relational op negated operand =>
      .ok (Grading.relational op negated operand specText actual)
  | .approx negated operand => .ok (Grading.approx negated operand specText actual)
  | .plain text => .ok (Grading.plain text lookup actual)

def evaluate [Pattern.Engine] (specText actual : String) (lookup : Lookup) :
    Except Pattern.Invalid Verdict :=
  (Spec.ofText specText).grade specText actual lookup

end CellGrading
