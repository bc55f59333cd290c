import CellGrading.Pattern.Basic
import CellGrading.Proofs.Symbol.Reference
import CellGrading.Proofs.Verdict.Footprint
import Mathlib.Logic.Function.Basic

/-!
# What a verdict depends on

Two gradings of one spec and one actual text differ only where they may: the text of the
cell is displayed and nothing else, and of the symbols those count that a plain text
mentions.
-/

namespace CellGrading

open Text

/-- The verdicts agree but for the expected text that they display. -/
structure Verdict.Agrees (verdict verdict' : Verdict) : Prop where
  outcome : verdict.outcome = verdict'.outcome
  message : verdict.message = verdict'.message
  kind : verdict.kind = verdict'.kind
  actual : verdict.actual = verdict'.actual
  binding : verdict.binding = verdict'.binding

inductive GradedAlike : Except Pattern.Invalid Verdict → Except Pattern.Invalid Verdict → Prop
  | error (pattern : String) : GradedAlike (.error ⟨pattern⟩) (.error ⟨pattern⟩)
  | ok {verdict verdict' : Verdict} (h : verdict.Agrees verdict') :
      GradedAlike (.ok verdict) (.ok verdict')

namespace Spec

/-! ## Symbols -/

def Reads (spec : Spec) (name : String) : Prop :=
  ∃ text, spec = .plain text ∧ Mentions text name

theorem grade_of_reads [Pattern.Engine] {spec : Spec} {first second : Lookup}
    (h : ∀ name, spec.Reads name → first name = second name) (specText actual : String) :
    spec.grade specText actual first = spec.grade specText actual second := by
  apply grade_congr
  intro text hspec name hname
  exact h name ⟨text, hspec, (mem_referencedNames_iff text name).1 hname⟩

@[simp] theorem reads_plain_iff (text name : String) :
    (Spec.plain text).Reads name ↔ Mentions text name := by
  simp [Reads]

theorem not_reads_of_kind {spec : Spec} (h : spec.kind ≠ .plain) (name : String) :
    ¬ spec.Reads name := by
  rintro ⟨text, rfl, -⟩
  exact h rfl

/-! ## Texts of cells -/

theorem agrees_matched (found : Bool) (kind : SpecKind)
    (message expected expected' actual : String) :
    (Grading.matched found kind message expected actual).Agrees
      (Grading.matched found kind message expected' actual) :=
  ⟨rfl, rfl, rfl, rfl, rfl⟩

section

variable (spec : Spec) (first second actual : String) (lookup : Lookup)

theorem gradedAlike_texts [Pattern.Engine] :
    GradedAlike (spec.grade first actual lookup) (spec.grade second actual lookup) := by
  cases spec with
  | blank => exact .ok ⟨rfl, rfl, rfl, rfl, rfl⟩
  | capture symbol => exact .ok ⟨rfl, rfl, rfl, rfl, rfl⟩
  | regex pattern =>
      rw [grade, grade, Grading.regex, Grading.regex]
      cases Pattern.search pattern actual with
      | error fault => exact .error fault.pattern
      | ok found => exact .ok (agrees_matched ..)
  | interval low lowOp highOp high =>
      rw [grade, grade, Grading.interval, Grading.interval]
      exact .ok (agrees_matched ..)
  | relational op negated operand =>
      rw [grade, grade, Grading.relational, Grading.relational]
      exact .ok (agrees_matched ..)
  | approx negated operand =>
      rw [grade, grade, Grading.approx, Grading.approx]
      exact .ok (agrees_matched ..)
  | plain text => exact .ok ⟨rfl, rfl, rfl, rfl, rfl⟩

variable {first second}

theorem grade_eq_of_trim_eq [Pattern.Engine] (h : trim first = trim second) :
    spec.grade first actual lookup = spec.grade second actual lookup := by
  cases spec with
  | blank => rfl
  | capture symbol => simp only [grade, Grading.capture, h]
  | regex pattern => simp only [grade, Grading.regex, h]
  | interval low lowOp highOp high => simp only [grade, Grading.interval, Grading.compared, h]
  | relational op negated operand => simp only [grade, Grading.relational, Grading.compared, h]
  | approx negated operand => simp only [grade, Grading.approx, Grading.compared, h]
  | plain text => rfl

theorem grade_eq_of_displayed [Pattern.Engine]
    (h : spec.kind = .plain ∨ spec.kind = .blank ∨ trim first = trim second) :
    spec.grade first actual lookup = spec.grade second actual lookup := by
  rcases h with hkind | hkind | htrim
  · cases spec with
    | plain text => rfl
    | _ => cases hkind
  · cases spec with
    | blank => rfl
    | _ => cases hkind
  · exact spec.grade_eq_of_trim_eq actual lookup htrim

end

/-! ## Two gradings -/

section

variable {spec : Spec} {first second : Lookup}

/-- Gradings of a spec agree when the lookups agree on what it reads.  The text of the cell
matters for the expected text alone, and there only what is left of it after trimming, and
nothing at all where the spec is blank or plain.  So a name that is not mentioned may be
bound to anything, and a spec that is not plain text reads no symbol. -/
theorem grade_noninterference [Pattern.Engine]
    (h : ∀ name, spec.Reads name → first name = second name) (specText specText' actual : String) :
    GradedAlike (spec.grade specText actual first) (spec.grade specText' actual second) ∧
      (spec.kind = .plain ∨ spec.kind = .blank ∨ trim specText = trim specText' →
        spec.grade specText actual first = spec.grade specText' actual second) ∧
      (∀ name value?, ¬ spec.Reads name →
        spec.grade specText actual (Function.update first name value?) =
          spec.grade specText actual first) ∧
      (spec.kind ≠ .plain → ∀ other : Lookup,
        spec.grade specText actual other = spec.grade specText actual first) := by
  rw [← grade_of_reads h specText' actual]
  refine ⟨spec.gradedAlike_texts specText specText' actual first,
    spec.grade_eq_of_displayed actual first, ?_, ?_⟩
  · intro name value? hname
    apply grade_of_reads
    intro read hread
    have hne : read ≠ name := by
      rintro rfl
      exact hname hread
    rw [Function.update_of_ne hne]
  · intro hkind other
    apply grade_of_reads
    intro name hread
    exact absurd hread (not_reads_of_kind hkind name)

theorem grade_noninterference_prefix :
    (Spec.plain "$AB-$").Reads "AB" ∧ ¬ (Spec.plain "$AB-$").Reads "A" ∧
      ¬ (Spec.plain "$AB-$").Reads "ABC" ∧
      GradedAlike
        ((Spec.plain "$AB-$").grade "$AB-$" "1-$"
          (SymbolTable.ofList [("A", "2"), ("AB", "1"), ("ABC", "$A")]).get?)
        ((Spec.plain "$AB-$").grade "= 1" "1-$"
          (Function.update Lookup.nothing "AB" (some "1"))) := by
  simp only [reads_plain_iff]
  refine ⟨by decide +kernel, by decide +kernel, by decide +kernel, ?_⟩
  refine (grade_noninterference ?_ "$AB-$" "= 1" "1-$").1
  intro name hread
  have hnames : referencedNames "$AB-$" = ["AB"] := by decide +kernel
  rw [reads_plain_iff, ← mem_referencedNames_iff, hnames, List.mem_singleton] at hread
  subst hread
  decide +kernel

end

end Spec

end CellGrading
