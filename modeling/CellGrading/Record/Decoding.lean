import CellGrading.Json.Decoder
import CellGrading.Suite.Run

/-!
# Records from JSON

Reads what the library works on from JSON.  A record is an object whose members
are its fields in any order, other members being passed over, or an array of its
fields in their order.  What may be left out has a default.
-/

namespace CellGrading

open Json
open Json.Document

def Outcome.decode : Document → Decoded Outcome := decodeVariant Outcome.name Outcome.all

def SpecKind.decode : Document → Decoded SpecKind := decodeVariant SpecKind.name SpecKind.all

/-- A table of symbols; of a name that occurs more than once, the last value counts. -/
def SymbolTable.decode : Document → Decoded SymbolTable
  | .object members fault =>
      decodeObject (fun table name value => do
        let value ← decodeString value
        return table.insert name value) .empty members fault
  | document => document.mismatch "a map"

/-! ## Bindings -/

namespace SymbolBinding

structure Fields where
  name : Option String := none
  value : Option String := none

def readMember (fields : Fields) (key : String) (value : Document) : Decoded Fields := do
  match key with
  | "name" => return { fields with name := ← decodeOnce key fields.name decodeString value }
  | "value" => return { fields with value := ← decodeOnce key fields.value decodeString value }
  | _ =>
      pass value
      return fields

def decode : Document → Decoded SymbolBinding
  | .object members fault => do
      let fields ← decodeObject readMember {} members fault
      return ⟨← required "name" fields.name, ← required "value" fields.value⟩
  | .array items fault => do
      let shape := "struct SymbolBinding with 2 elements"
      let (name, rest) ← Items.next ⟨0, items, fault⟩ shape decodeString
      let (value, rest) ← rest.next shape decodeString
      rest.finish
      return ⟨name, value⟩
  | document => document.mismatch "struct SymbolBinding"

def decodeOptional : Document → Decoded (Option SymbolBinding)
  | .null => .ok none
  | document => do return some (← decode document)

end SymbolBinding

/-! ## Verdicts -/

namespace Verdict

structure Fields where
  outcome : Option Outcome := none
  message : Option String := none
  kind : Option SpecKind := none
  expected : Option String := none
  actual : Option String := none
  binding : Option (Option SymbolBinding) := none

def readMember (fields : Fields) (key : String) (value : Document) : Decoded Fields := do
  match key with
  | "outcome" =>
      return { fields with outcome := ← decodeOnce key fields.outcome Outcome.decode value }
  | "message" =>
      return { fields with message := ← decodeOnce key fields.message decodeString value }
  | "kind" => return { fields with kind := ← decodeOnce key fields.kind SpecKind.decode value }
  | "expected" =>
      return { fields with expected := ← decodeOnce key fields.expected decodeString value }
  | "actual" =>
      return { fields with actual := ← decodeOnce key fields.actual decodeString value }
  | "binding" =>
      return { fields with
        binding := ← decodeOnce key fields.binding SymbolBinding.decodeOptional value }
  | _ =>
      pass value
      return fields

def decode : Document → Decoded Verdict
  | .object members fault => do
      let fields ← decodeObject readMember {} members fault
      return {
        outcome := ← required "outcome" fields.outcome
        message := ← required "message" fields.message
        kind := ← required "kind" fields.kind
        expected := ← required "expected" fields.expected
        actual := ← required "actual" fields.actual
        binding := fields.binding.getD none }
  | .array items fault => do
      let shape := "struct Verdict with 6 elements"
      let (outcome, rest) ← Items.next ⟨0, items, fault⟩ shape Outcome.decode
      let (message, rest) ← rest.next shape decodeString
      let (kind, rest) ← rest.next shape SpecKind.decode
      let (expected, rest) ← rest.next shape decodeString
      let (actual, rest) ← rest.next shape decodeString
      let (binding, rest) ← rest.next? SymbolBinding.decodeOptional
      rest.finish
      return ⟨outcome, message, kind, expected, actual, binding.getD none⟩
  | document => document.mismatch "struct Verdict"

end Verdict

/-! ## Expectations -/

namespace Expectation

structure Fields where
  instructionId : Option String := none
  column : Option Nat := none
  row : Option Nat := none
  verdict : Option Verdict := none

def readMember (fields : Fields) (key : String) (value : Document) : Decoded Fields := do
  match key with
  | "instruction_id" =>
      return { fields with
        instructionId := ← decodeOnce key fields.instructionId decodeString value }
  | "column" => return { fields with column := ← decodeOnce key fields.column decodeNat value }
  | "row" => return { fields with row := ← decodeOnce key fields.row decodeNat value }
  | "verdict" =>
      return { fields with verdict := ← decodeOnce key fields.verdict Verdict.decode value }
  | _ =>
      pass value
      return fields

def decode : Document → Decoded Expectation
  | .object members fault => do
      let fields ← decodeObject readMember {} members fault
      return {
        instructionId := ← required "instruction_id" fields.instructionId
        column := ← required "column" fields.column
        row := ← required "row" fields.row
        verdict := ← required "verdict" fields.verdict }
  | .array items fault => do
      let shape := "struct Expectation with 4 elements"
      let (instructionId, rest) ← Items.next ⟨0, items, fault⟩ shape decodeString
      let (column, rest) ← rest.next shape decodeNat
      let (row, rest) ← rest.next shape decodeNat
      let (verdict, rest) ← rest.next shape Verdict.decode
      rest.finish
      return ⟨instructionId, column, row, verdict⟩
  | document => document.mismatch "struct Expectation"

end Expectation

/-! ## Reports -/

namespace Tally

structure Fields where
  pass : Option Nat := none
  fail : Option Nat := none
  ignore : Option Nat := none

def readMember (fields : Fields) (key : String) (value : Document) : Decoded Fields := do
  match key with
  | "pass" => return { fields with pass := ← decodeOnce key fields.pass decodeNat value }
  | "fail" => return { fields with fail := ← decodeOnce key fields.fail decodeNat value }
  | "ignore" => return { fields with ignore := ← decodeOnce key fields.ignore decodeNat value }
  | _ =>
      Document.pass value
      return fields

def decode : Document → Decoded Tally
  | .object members fault => do
      let fields ← decodeObject readMember {} members fault
      return {
        pass := ← required "pass" fields.pass
        fail := ← required "fail" fields.fail
        ignore := ← required "ignore" fields.ignore }
  | .array items fault => do
      let shape := "struct Tally with 3 elements"
      let (pass, rest) ← Items.next ⟨0, items, fault⟩ shape decodeNat
      let (fail, rest) ← rest.next shape decodeNat
      let (ignore, rest) ← rest.next shape decodeNat
      rest.finish
      return ⟨pass, fail, ignore⟩
  | document => document.mismatch "struct Tally"

end Tally

namespace Report

structure Fields where
  expectations : Option (List Expectation) := none
  tally : Option Tally := none
  symbols : Option SymbolTable := none

def readMember (fields : Fields) (key : String) (value : Document) : Decoded Fields := do
  match key with
  | "expectations" =>
      return { fields with
        expectations := ←
          decodeOnce key fields.expectations (decodeList Expectation.decode) value }
  | "tally" => return { fields with tally := ← decodeOnce key fields.tally Tally.decode value }
  | "symbols" =>
      return { fields with symbols := ← decodeOnce key fields.symbols SymbolTable.decode value }
  | _ =>
      pass value
      return fields

def decode : Document → Decoded Report
  | .object members fault => do
      let fields ← decodeObject readMember {} members fault
      return {
        expectations := ← required "expectations" fields.expectations
        tally := ← required "tally" fields.tally
        symbols := ← required "symbols" fields.symbols }
  | .array items fault => do
      let shape := "struct SuiteReport with 3 elements"
      let (expectations, rest) ←
        Items.next ⟨0, items, fault⟩ shape (decodeList Expectation.decode)
      let (tally, rest) ← rest.next shape Tally.decode
      let (symbols, rest) ← rest.next shape SymbolTable.decode
      rest.finish
      return ⟨expectations, tally, symbols⟩
  | document => document.mismatch "struct SuiteReport"

end Report

/-! ## Suites -/

namespace Case

structure Fields where
  instructionId : Option String := none
  column : Option Nat := none
  row : Option Nat := none
  expected : Option String := none
  actual : Option String := none

def ofFields (fields : Fields) : Decoded Case := do
  return {
    instructionId := ← required "instruction_id" fields.instructionId
    column := fields.column.getD 0
    row := fields.row.getD 0
    expected := fields.expected.getD ""
    actual := fields.actual.getD "" }

def readMember (fields : Fields) (key : String) (value : Document) : Decoded Fields := do
  match key with
  | "instruction_id" =>
      return { fields with
        instructionId := ← decodeOnce key fields.instructionId decodeString value }
  | "column" => return { fields with column := ← decodeOnce key fields.column decodeNat value }
  | "row" => return { fields with row := ← decodeOnce key fields.row decodeNat value }
  | "expected" =>
      return { fields with expected := ← decodeOnce key fields.expected decodeString value }
  | "actual" =>
      return { fields with actual := ← decodeOnce key fields.actual decodeString value }
  | _ =>
      pass value
      return fields

def decode : Document → Decoded Case
  | .object members fault => do
      let fields ← decodeObject readMember {} members fault
      ofFields fields
  | .array items fault => do
      let shape := "struct Case with 5 elements"
      let (instructionId, rest) ← Items.next ⟨0, items, fault⟩ shape decodeString
      let (column, rest) ← rest.next? decodeNat
      let (row, rest) ← rest.next? decodeNat
      let (expected, rest) ← rest.next? decodeString
      let (actual, rest) ← rest.next? decodeString
      rest.finish
      ofFields ⟨some instructionId, column, row, expected, actual⟩
  | document => document.mismatch "struct Case"

end Case

namespace Suite

structure Fields where
  symbols : Option SymbolTable := none
  cases : Option (List Case) := none

def readMember (fields : Fields) (key : String) (value : Document) : Decoded Fields := do
  match key with
  | "symbols" =>
      return { fields with symbols := ← decodeOnce key fields.symbols SymbolTable.decode value }
  | "cases" =>
      return { fields with cases := ← decodeOnce key fields.cases (decodeList Case.decode) value }
  | _ =>
      pass value
      return fields

def decode : Document → Decoded Suite
  | .object members fault => do
      let fields ← decodeObject readMember {} members fault
      let cases ← required "cases" fields.cases
      return ⟨fields.symbols.getD .empty, cases⟩
  | .array items fault => do
      let (symbols, rest) ← Items.next? ⟨0, items, fault⟩ SymbolTable.decode
      let (cases, rest) ← rest.next "struct Suite with 2 elements" (decodeList Case.decode)
      rest.finish
      return ⟨symbols.getD .empty, cases⟩
  | document => document.mismatch "struct Suite"

end Suite

end CellGrading
