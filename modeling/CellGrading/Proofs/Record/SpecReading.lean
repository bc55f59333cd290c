import CellGrading.Proofs.Json.Decoding
import CellGrading.Proofs.Record.RoundTrip
import CellGrading.Record.Encoding

/-!
# Specs from their own JSON

The JSON of a spec has the texts of its literals and not their values.  It can be read
back all the same: a literal is known by its text.
-/

namespace CellGrading

open Json
open Json.Document

/-! ## Scalars -/

def RelationalOp.all : List RelationalOp := [.lt, .le, .gt, .ge, .eq]

def RelationalOp.decode : Document → Decoded RelationalOp := decodeVariant RelationalOp.name all

@[simp] theorem RelationalOp.decode_document (op : RelationalOp) :
    RelationalOp.decode (Value.string op.name).document = .ok op :=
  decodeVariant_document (by cases op <;> rfl)

def BoundOp.all : List BoundOp := [.lt, .le]

def BoundOp.decode : Document → Decoded BoundOp := decodeVariant BoundOp.name all

@[simp] theorem BoundOp.decode_document (op : BoundOp) :
    BoundOp.decode (Value.string op.name).document = .ok op :=
  decodeVariant_document (by cases op <;> rfl)

def decodeBool : Document → Decoded Bool
  | .bool value => .ok value
  | document => document.mismatch "a boolean"

@[simp] theorem decodeBool_document (value : Bool) :
    decodeBool (Value.bool value).document = .ok value :=
  rfl

namespace Literal

def decode (document : Document) : Decoded Literal := do
  let text ← decodeString document
  match ofText? text with
  | some literal => return literal
  | none => refuse (.invalidValue (.string text) "a number")

@[simp] theorem ofText?_text_self (literal : Literal) : ofText? literal.text = some literal := by
  cases hread : ofText? literal.text with
  | none =>
      have hnone := (ofText?_eq_none_iff literal.text).1 hread
      rw [literal.ofText?_text] at hnone
      cases hnone
  | some found =>
      have htext : found.text = literal.text := by rw [text_of_ofText? hread, literal.trim_text]
      rw [ext_of_text htext]

@[simp] theorem decode_toJson (literal : Literal) :
    Literal.decode literal.toJson.document = .ok literal := by
  simp [toJson, decode]

end Literal

/-! ## Specs -/

namespace Spec

def gather (members : List (String × Document)) (name : String) (value : Document) :
    Decoded (List (String × Document)) :=
  .ok (members ++ [(name, value)])

def member {α : Type} (members : List (String × Document)) (name : String)
    (decode : Document → Decoded α) : Decoded α := do
  decode (← required name (members.lookup name))

def ofMembers (members : List (String × Document)) : SpecKind → Decoded Spec
  | .blank => return .blank
  | .capture => return .capture (← member members "symbol" decodeString)
  | .regex => return .regex (← member members "pattern" decodeString)
  | .interval =>
      return .interval (← member members "low" Literal.decode)
        (← member members "low_op" BoundOp.decode) (← member members "high_op" BoundOp.decode)
        (← member members "high" Literal.decode)
  | .relational =>
      return .relational (← member members "op" RelationalOp.decode)
        (← member members "negated" decodeBool) (← member members "operand" Literal.decode)
  | .approx =>
      return .approx (← member members "negated" decodeBool)
        (← member members "operand" Literal.decode)
  | .plain => return .plain (← member members "text" decodeString)

def decode : Document → Decoded Spec
  | .object members fault => do
      let members ← decodeObject gather [] members fault
      ofMembers members (← member members "kind" SpecKind.decode)
  | document => document.mismatch "a spec"

theorem decode_toJson (spec : Spec) : Spec.decode spec.toJson.document = .ok spec := by
  cases spec <;> simp [toJson, kind, decode, gather, member, ofMembers, List.lookup_cons]

end Spec

end CellGrading
