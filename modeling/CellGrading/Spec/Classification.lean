import CellGrading.Spec.Shape

/-!
# Classification

`Spec.ofText` finds the spec that the text of a cell stands for.  Blanks at the
ends of the cell do not matter for any shape; a text of no shape is compared as
it stands, blanks included.
-/

namespace CellGrading.Spec

def ofInterval? (parts : Shape.Interval) : Option Spec := do
  let low ← Literal.ofText? (.ofList parts.low)
  let high ← Literal.ofText? (.ofList parts.high)
  return .interval low parts.lowOp parts.highOp high

def ofComparison? (parts : Shape.Comparison) : Option Spec := do
  let operand ← Literal.ofText? (.ofList parts.operand)
  match parts.comparator with
  | .rounded => return .approx parts.negated operand
  | .exact op => return .relational op parts.negated operand

/-- The spec of a trimmed text that has the shape of a capture, a pattern, an
interval or a comparison. -/
def ofShape? (text : List Char) : Option Spec :=
  (Shape.capture? text).map (fun name => .capture (.ofList name))
    <|> (Shape.regex? text).map (fun pattern => .regex (.ofList pattern))
    <|> (Shape.interval? text).bind ofInterval?
    <|> (Shape.comparison? text).bind ofComparison?

def ofText (text : String) : Spec :=
  if text.isEmpty then .blank
  else (ofShape? (Text.trimChars text.toList)).getD (.plain text)

end CellGrading.Spec
