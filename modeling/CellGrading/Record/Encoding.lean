import CellGrading.Json.Value
import CellGrading.Suite.Run

/-!
# Records as JSON

The JSON form of what the library works on.  Members stand in the order of the
fields, and a verdict without a binding has no member for one.
-/

namespace CellGrading

open Json (Value)

def Outcome.toJson (outcome : Outcome) : Value := .string outcome.name

def SpecKind.toJson (kind : SpecKind) : Value := .string kind.name

def SymbolBinding.toJson (binding : SymbolBinding) : Value :=
  .object [("name", .string binding.name), ("value", .string binding.value)]

def SymbolTable.toJson (table : SymbolTable) : Value :=
  .object (table.entries.map fun (name, value) => (name, .string value))

/-! ## Specs -/

def Literal.toJson (literal : Literal) : Value := .string literal.text

def Spec.toJson (spec : Spec) : Value :=
  .object <| ("kind", spec.kind.toJson) ::
    match spec with
    | .blank => []
    | .capture symbol => [("symbol", .string symbol)]
    | .regex pattern => [("pattern", .string pattern)]
    | .interval low lowOp highOp high =>
        [("low", low.toJson), ("low_op", .string lowOp.name),
          ("high_op", .string highOp.name), ("high", high.toJson)]
    | .relational op negated operand =>
        [("op", .string op.name), ("negated", .bool negated), ("operand", operand.toJson)]
    | .approx negated operand => [("negated", .bool negated), ("operand", operand.toJson)]
    | .plain text => [("text", .string text)]

/-! ## Verdicts and reports -/

def Verdict.toJson (verdict : Verdict) : Value :=
  .object <|
    [("outcome", verdict.outcome.toJson), ("message", .string verdict.message),
      ("kind", verdict.kind.toJson), ("expected", .string verdict.expected),
      ("actual", .string verdict.actual)] ++
    match verdict.binding with
    | some binding => [("binding", binding.toJson)]
    | none => []

def Expectation.toJson (expectation : Expectation) : Value :=
  .object
    [("instruction_id", .string expectation.instructionId), ("column", .nat expectation.column),
      ("row", .nat expectation.row), ("verdict", expectation.verdict.toJson)]

def Tally.toJson (tally : Tally) : Value :=
  .object [("pass", .nat tally.pass), ("fail", .nat tally.fail), ("ignore", .nat tally.ignore)]

def Report.members (report : Report) : List (String × Value) :=
  [("expectations", .array (report.expectations.map Expectation.toJson)),
    ("tally", report.tally.toJson), ("symbols", report.symbols.toJson)]

def Report.toJson (report : Report) : Value := .object report.members

def Report.summary (report : Report) : Value :=
  .object (("success", .bool report.isSuccess) :: report.members)

/-! ## Suites -/

def Case.toJson (entry : Case) : Value :=
  .object
    [("instruction_id", .string entry.instructionId), ("column", .nat entry.column),
      ("row", .nat entry.row), ("expected", .string entry.expected),
      ("actual", .string entry.actual)]

def Suite.toJson (suite : Suite) : Value :=
  .object [("symbols", suite.symbols.toJson), ("cases", .array (suite.cases.map Case.toJson))]

end CellGrading
