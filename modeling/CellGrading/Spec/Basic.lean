import CellGrading.Decimal.Numeral
import CellGrading.Spec.Operator

/-!
# Specs

What a cell of expected values asks for.  Every text of a cell stands for one
spec; the text itself is kept only where the spec compares with it.
-/

namespace CellGrading

/-! ## Literals -/

/-- A number with the text that an author wrote for it. -/
structure Literal where
  text : String
  value : Decimal
  /-- The text is free of blanks at its ends. -/
  trim_text : Text.trim text = text
  /-- The value is the one that the text writes. -/
  ofText?_text : Decimal.ofText? text = some value
deriving DecidableEq

namespace Literal

def ofText? (text : String) : Option Literal :=
  match h : Decimal.ofText? (Text.trim text) with
  | some value => some ⟨Text.trim text, value, Text.trim_trim text, h⟩
  | none => none

theorem ofText?_eq_none_iff (text : String) :
    ofText? text = none ↔ Decimal.ofText? text = none := by
  unfold ofText?
  split
  · next h => simp [Decimal.ofText?_trim] at h; simp [h]
  · next h => simpa using h

theorem text_of_ofText? {text : String} {literal : Literal} (h : ofText? text = some literal) :
    literal.text = Text.trim text := by
  unfold ofText? at h
  split at h
  · cases h; rfl
  · cases h

theorem ext_of_text {first second : Literal} (h : first.text = second.text) :
    first = second := by
  obtain ⟨_, _, _, h₁⟩ := first
  obtain ⟨_, _, _, h₂⟩ := second
  cases h
  cases h₁.symm.trans h₂
  rfl

end Literal

/-! ## Kinds of spec -/

inductive SpecKind where
  | blank
  | capture
  | regex
  | interval
  | relational
  | approx
  | plain
  deriving DecidableEq, Repr

namespace SpecKind

def all : List SpecKind :=
  [.blank, .capture, .regex, .interval, .relational, .approx, .plain]

def name : SpecKind → String
  | .blank => "blank"
  | .capture => "capture"
  | .regex => "regex"
  | .interval => "interval"
  | .relational => "relational"
  | .approx => "approx"
  | .plain => "plain"

end SpecKind

inductive Spec where
  /-- Nothing is asked: the actual value is only reported. -/
  | blank
  /-- The actual value is bound to a symbol. -/
  | capture (symbol : String)
  /-- The pattern is to be found in the actual text. -/
  | regex (pattern : String)
  /-- The actual number is to lie between two others. -/
  | interval (low : Literal) (lowOp highOp : BoundOp) (high : Literal)
  /-- The actual number is to compare with the operand as the operator says, or not to. -/
  | relational (op : RelationalOp) (negated : Bool) (operand : Literal)
  /-- The actual number, rounded to the places of the operand, is to equal it, or not to. -/
  | approx (negated : Bool) (operand : Literal)
  /-- The actual value is to equal the text, once bound symbols are put in. -/
  | plain (text : String)
  deriving DecidableEq

def Spec.kind : Spec → SpecKind
  | .blank => .blank
  | .capture _ => .capture
  | .regex _ => .regex
  | .interval .. => .interval
  | .relational .. => .relational
  | .approx .. => .approx
  | .plain _ => .plain

end CellGrading
