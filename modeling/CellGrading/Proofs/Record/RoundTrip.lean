import CellGrading.Proofs.Record.Bindings
import CellGrading.Proofs.Symbol.Table
import CellGrading.Record.Encoding

/-!
# Records from their own JSON

What is encoded is decoded to the same again.  Counts and positions have to fit in
64 bits; texts may be any.
-/

namespace CellGrading

open Json
open Json.Document

/-! ## Names -/

@[simp] theorem Outcome.decode_toJson (outcome : Outcome) :
    Outcome.decode outcome.toJson.document = .ok outcome :=
  decodeVariant_document (by cases outcome <;> rfl)

@[simp] theorem SpecKind.decode_toJson (kind : SpecKind) :
    SpecKind.decode kind.toJson.document = .ok kind :=
  decodeVariant_document (by cases kind <;> rfl)

/-! ## Bindings -/

@[simp] theorem SymbolBinding.decode_toJson (binding : SymbolBinding) :
    SymbolBinding.decode binding.toJson.document = .ok binding := by
  simp [toJson, SymbolBinding.decode, readMember]

@[simp] theorem SymbolBinding.decodeOptional_toJson (binding : SymbolBinding) :
    SymbolBinding.decodeOptional binding.toJson.document = .ok (some binding) := by
  have h := decode_toJson binding
  rw [toJson, Value.document_object] at h ⊢
  simp only [decodeOptional, h, ok_bind, pure_eq_ok]

/-! ## Symbol tables -/

namespace SymbolTable

@[simp] theorem decode_toJson (table : SymbolTable) :
    SymbolTable.decode table.toJson.document = .ok table := by
  rw [toJson, Value.document_object, decode_eq_ok_iff]
  exact ⟨_, table.entries, rfl, membersSay_documents table.entries, (ofList_entries table).symm⟩

end SymbolTable

/-! ## Verdicts -/

@[simp] theorem Verdict.decode_toJson (verdict : Verdict) :
    Verdict.decode verdict.toJson.document = .ok verdict := by
  obtain ⟨outcome, message, kind, expected, actual, binding⟩ := verdict
  cases binding with
  | none => simp [toJson, Verdict.decode, readMember]
  | some binding => simp [toJson, Verdict.decode, readMember]

/-! ## Expectations -/

structure Expectation.Fits (expectation : Expectation) : Prop where
  column : expectation.column < UInt64.size
  row : expectation.row < UInt64.size

theorem Expectation.decode_toJson {expectation : Expectation} (h : expectation.Fits) :
    Expectation.decode expectation.toJson.document = .ok expectation := by
  simp [toJson, Expectation.decode, readMember, h.column, h.row]

/-! ## Reports -/

structure Tally.Fits (tally : Tally) : Prop where
  pass : tally.pass < UInt64.size
  fail : tally.fail < UInt64.size
  ignore : tally.ignore < UInt64.size

theorem Tally.decode_toJson {tally : Tally} (h : tally.Fits) :
    Tally.decode tally.toJson.document = .ok tally := by
  simp [toJson, Tally.decode, readMember, h.pass, h.fail, h.ignore]

structure Report.Fits (report : Report) : Prop where
  expectations : ∀ expectation ∈ report.expectations, expectation.Fits
  tally : report.tally.Fits

namespace Report

theorem decodeMembers_members {report : Report} (h : report.Fits) :
    decodeMembers readMember {} (Value.memberDocuments report.members) =
      .ok ⟨some report.expectations, some report.tally, some report.symbols⟩ := by
  have hexpectations := decodeList_document fun expectation hexpectation =>
    Expectation.decode_toJson (h.expectations expectation hexpectation)
  simp [members, readMember, hexpectations, Tally.decode_toJson h.tally]

theorem decode_toJson {report : Report} (h : report.Fits) :
    Report.decode report.toJson.document = .ok report := by
  simp [toJson, Report.decode, decodeMembers_members h]

theorem decode_summary {report : Report} (h : report.Fits) :
    Report.decode report.summary.document = .ok report := by
  have hsuccess : readMember {} "success" (Value.bool report.isSuccess).document = .ok {} := by
    simp [readMember]
  simp [summary, Report.decode, hsuccess, decodeMembers_members h]

end Report

end CellGrading
