import CellGrading.Json.Number
import CellGrading.Json.Reader
import CellGrading.Text.Quoted

/-!
# Decoding documents

A decoder takes a document apart in the order of its text and stops at the first
thing that is wrong with it: a fault of the text, or a shape that is not the
asked one.
-/

namespace CellGrading.Json

/-! ## Errors -/

inductive Found where
  | null
  | bool (value : Bool)
  | number (value : NumberValue)
  | string (text : String)
  | sequence
  | map
  deriving DecidableEq, Repr

def Found.describe : Found → String
  | .null => "null"
  | .bool value => "boolean `" ++ toString value ++ "`"
  | .number (.unsigned value) => "integer `" ++ toString value ++ "`"
  | .number (.negative value) => "integer `-" ++ toString value ++ "`"
  | .number (.double negative value) =>
      "floating point `" ++ (if negative then "-" else "") ++ value.toText ++ "`"
  | .string text => "string " ++ Text.quote text
  | .sequence => "sequence"
  | .map => "map"

inductive ShapeError where
  | invalidType (found : Found) (expected : String)
  | invalidValue (found : Found) (expected : String)
  | invalidLength (length : Nat) (expected : String)
  | missingField (field : String)
  | duplicateField (field : String)
  | unknownVariant (variant : String) (known : List String)
  deriving DecidableEq, Repr

def ticked (name : String) : String := "`" ++ name ++ "`"

def ShapeError.message : ShapeError → String
  | .invalidType found expected => "invalid type: " ++ found.describe ++ ", expected " ++ expected
  | .invalidValue found expected =>
      "invalid value: " ++ found.describe ++ ", expected " ++ expected
  | .invalidLength length expected =>
      "invalid length " ++ toString length ++ ", expected " ++ expected
  | .missingField field => "missing field " ++ ticked field
  | .duplicateField field => "duplicate field " ++ ticked field
  | .unknownVariant variant known =>
      "unknown variant " ++ ticked variant ++ ", expected one of "
        ++ String.intercalate ", " (known.map ticked)

inductive DecodeError where
  | fault (fault : Fault)
  | shape (error : ShapeError)
  deriving DecidableEq, Repr

abbrev Decoded (α : Type) := Except DecodeError α

def raise {α : Type} (fault : Fault) : Decoded α := .error (.fault fault)

def refuse {α : Type} (error : ShapeError) : Decoded α := .error (.shape error)

def unbroken : Option Fault → Decoded Unit
  | none => .ok ()
  | some fault => raise fault

/-! ## Scalars -/

namespace Document

/-- The error of a document that stands where something else is asked for.  Of an
array or an object, its first sign is enough. -/
def mismatch {α : Type} (expected : String) : Document → Decoded α
  | .null => refuse (.invalidType .null expected)
  | .bool value => refuse (.invalidType (.bool value) expected)
  | .number written =>
      match written.value? with
      | some value => refuse (.invalidType (.number value) expected)
      | none => raise .malformed
  | .cutName => raise .truncated
  | .cutNumber => raise .truncated
  | .string text =>
      match text.decode with
      | .ok text => refuse (.invalidType (.string text) expected)
      | .error fault => raise fault
  | .array _ _ => refuse (.invalidType .sequence expected)
  | .object _ _ => refuse (.invalidType .map expected)
  | .broken fault => raise fault

def ofQuoted (text : Quoted) : Decoded String :=
  match text.decode with
  | .ok text => .ok text
  | .error fault => raise fault

def decodeString : Document → Decoded String
  | .string text => ofQuoted text
  | document => document.mismatch "a string"

def decodeNat : Document → Decoded Nat
  | .number written =>
      match written.value? with
      | some (.unsigned value) => .ok value
      | some (.negative value) => refuse (.invalidValue (.number (.negative value)) "usize")
      | some value => refuse (.invalidType (.number value) "usize")
      | none => raise .malformed
  | document => document.mismatch "usize"

def pass (document : Document) : Decoded Unit := unbroken document.fault?

/-! ## Arrays and objects -/

def decodeItems {α : Type} (decode : Document → Decoded α) : List Document → Decoded (List α)
  | [] => .ok []
  | item :: rest => do
      let first ← decode item
      let others ← decodeItems decode rest
      return first :: others

def decodeList {α : Type} (decode : Document → Decoded α) : Document → Decoded (List α)
  | .array items fault => do
      let values ← decodeItems decode items
      unbroken fault
      return values
  | document => document.mismatch "a sequence"

def decodeKey : Document → Decoded String
  | .string text => ofQuoted text
  | .broken fault => raise fault
  | _ => raise .malformed

def decodeMembers {σ : Type} (step : σ → String → Document → Decoded σ) (known : σ) :
    List (Document × Document) → Decoded σ
  | [] => .ok known
  | (key, value) :: rest => do
      let name ← decodeKey key
      let known ← step known name value
      decodeMembers step known rest

def decodeObject {σ : Type} (step : σ → String → Document → Decoded σ) (start : σ)
    (members : List (Document × Document)) (fault : Option Fault) : Decoded σ := do
  let known ← decodeMembers step start members
  unbroken fault
  return known

def decodeOnce {α : Type} (field : String) (known : Option α) (decode : Document → Decoded α)
    (value : Document) : Decoded α :=
  if known.isSome then refuse (.duplicateField field) else decode value

def required {α : Type} (field : String) : Option α → Decoded α
  | some value => .ok value
  | none => refuse (.missingField field)

/-- The items of an array that stands for a record, as far as they were taken. -/
structure Items where
  taken : Nat
  rest : List Document
  fault : Option Fault

namespace Items

def next? {α : Type} (items : Items) (decode : Document → Decoded α) :
    Decoded (Option α × Items) :=
  match items.rest with
  | [] => do
      unbroken items.fault
      return (none, { items with taken := items.taken + 1 })
  | item :: rest => do
      let value ← decode item
      return (some value, { items with taken := items.taken + 1, rest := rest })

def next {α : Type} (items : Items) (expected : String) (decode : Document → Decoded α) :
    Decoded (α × Items) := do
  let (value, rest) ← items.next? decode
  match value with
  | some value => return (value, rest)
  | none => refuse (.invalidLength items.taken expected)

def finish (items : Items) : Decoded Unit :=
  match items.rest with
  | [] => unbroken items.fault
  | _ :: _ => raise .malformed

end Items

/-! ## Names out of a list -/

def variant {α : Type} (name : α → String) (all : List α) (text : String) : Decoded α :=
  match all.find? fun value => name value == text with
  | some value => .ok value
  | none => refuse (.unknownVariant text (all.map name))

def decodeUnit : Document → Decoded Unit
  | .null => .ok ()
  | document => document.mismatch "unit"

/-- A value given by its name: a string, or an object whose one member has the
name for its key and holds null. -/
def decodeVariant {α : Type} (name : α → String) (all : List α) : Document → Decoded α
  | .string text => do
      let text ← ofQuoted text
      variant name all text
  | .object [] fault => raise (fault.getD .malformed)
  | .object ((key, content) :: rest) fault => do
      let text ← match key with
        | .string text => ofQuoted text
        | key => key.mismatch "variant identifier"
      let value ← variant name all text
      decodeUnit content
      if rest.isEmpty then
        unbroken fault
        return value
      else raise .malformed
  | .broken fault => raise fault
  | _ => raise .malformed

end Document

def decode {α : Type} (decodeDocument : Document → Decoded α) (text : String) : Decoded α := do
  let (document, trailing) := Document.read text.toList
  let value ← decodeDocument document
  unbroken trailing
  return value

end CellGrading.Json
