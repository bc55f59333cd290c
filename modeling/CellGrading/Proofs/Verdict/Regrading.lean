import CellGrading.Pattern.Basic
import CellGrading.Proofs.Verdict.Noninterference
import CellGrading.Proofs.Verdict.WellFormed

/-!
# Grading a verdict once more

The expected text of a verdict is a cell that asks for the same: it is the cell trimmed,
which changes no spec but plain text, or the plain text itself where nothing was put in.
-/

namespace CellGrading

open Text

theorem Form.Spells.trim {form : Form} {text : String} (h : form.Spells text) :
    form.Spells (Text.trim text) := by
  refine ⟨h.1, ?_⟩
  rw [toList_trim, trimChars_trimChars]
  exact h.2

theorem Spec.ofText_trim {text : String} (h : (ofText text).kind ≠ .plain) :
    ofText (trim text) = ofText text := by
  have hclassifies := classifies_ofText text
  generalize ofText text = spec at h hclassifies ⊢
  cases hclassifies with
  | blank hempty =>
      subst hempty
      rfl
  | shaped hform hmeans => exact ofText_of_spells hform.trim hmeans
  | plain hne hform => exact absurd rfl h

theorem substitute_of_unbound {text : String} {lookup : Lookup}
    (h : ∀ name, Mentions text name → lookup name = none) :
    substitute text lookup = ⟨text, text⟩ := by
  rw [← substitute_nothing text]
  apply substitute_congr
  intro name hname
  exact h name ((mem_referencedNames_iff text name).1 hname)

section

variable {specText actual : String} {lookup : Lookup} {verdict : Verdict}

theorem evaluate_trim [Pattern.Engine] (h : (Spec.ofText specText).kind ≠ .plain) (other : Lookup) :
    evaluate (trim specText) actual other = evaluate specText actual lookup := by
  have htext := (Spec.ofText specText).grade_eq_of_trim_eq actual other (trim_trim specText)
  rw [evaluate, evaluate, Spec.ofText_trim h, htext]
  apply Spec.grade_of_reads
  intro name hread
  exact absurd hread (Spec.not_reads_of_kind h name)

/-- A verdict is what its own expected and actual text are graded as: under any lookup,
unless the cell is plain text, and then as long as none of the names in it is bound. -/
theorem evaluate_expected [Pattern.Engine] (h : evaluate specText actual lookup = .ok verdict) :
    (verdict.kind ≠ .plain → ∀ other : Lookup,
      evaluate verdict.expected verdict.actual other = .ok verdict) ∧
    (verdict.kind = .plain → (∀ name, Mentions specText name → lookup name = none) →
      evaluate verdict.expected verdict.actual lookup = .ok verdict) := by
  have harises := arises_of_evaluate h
  rw [harises.actual_eq]
  constructor
  · intro hplain other
    by_cases hblank : verdict.kind = .blank
    · rw [harises.eq_blank hblank]
      rfl
    · have hspec : (Spec.ofText specText).kind ≠ .plain := harises.kind_eq ▸ hplain
      rw [harises.expected_trim hblank hplain, evaluate_trim hspec, h]
  · intro hplain hunbound
    rw [harises.expected_plain hplain, substitute_of_unbound hunbound, h]

/-- A comparison between blanks, and plain text with blanks of its own and a name that
only an extension of is bound. -/
theorem evaluate_expected_padded :
    (∃ verdict, evaluate "\t!= 5\u3000" "abc" (SymbolTable.ofList [("X", "5")]).get? =
        .ok verdict ∧ verdict.kind = .relational ∧ verdict.expected = "!= 5" ∧
      evaluate "!= 5" "abc" .nothing = .ok verdict) ∧
    ∃ verdict, evaluate " $X " "= 5" (SymbolTable.ofList [("XY", "5")]).get? = .ok verdict ∧
      verdict.kind = .plain ∧ verdict.outcome = .fail ∧
      evaluate verdict.expected verdict.actual (SymbolTable.ofList [("XY", "5")]).get? =
        .ok verdict := by
  constructor
  · obtain ⟨verdict, h, hkind, hexpected, hactual⟩ :
        ∃ verdict, evaluate "\t!= 5\u3000" "abc" (SymbolTable.ofList [("X", "5")]).get? =
          .ok verdict ∧ verdict.kind = .relational ∧ verdict.expected = "!= 5" ∧
            verdict.actual = "abc" := ⟨_, rfl, rfl, by decide +kernel, rfl⟩
    have hagain := (evaluate_expected h).1 (by rw [hkind]; decide) .nothing
    rw [hexpected, hactual] at hagain
    exact ⟨verdict, h, hkind, hexpected, hagain⟩
  · obtain ⟨verdict, h, hkind, hfail⟩ :
        ∃ verdict, evaluate " $X " "= 5" (SymbolTable.ofList [("XY", "5")]).get? =
          .ok verdict ∧ verdict.kind = .plain ∧ verdict.outcome = .fail :=
      ⟨_, rfl, rfl, by decide +kernel⟩
    have hunbound : ∀ name, Mentions " $X " name →
        (SymbolTable.ofList [("XY", "5")]).get? name = none := by
      intro name hname
      have hnames : referencedNames " $X " = ["X"] := by decide +kernel
      rw [← mem_referencedNames_iff, hnames, List.mem_singleton] at hname
      subst hname
      decide +kernel
    exact ⟨verdict, h, hkind, hfail, (evaluate_expected h).2 hkind hunbound⟩

end

end CellGrading
