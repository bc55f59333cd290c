import CellGrading.Proofs.Spec.Classification
import CellGrading.Verdict.Grading

/-!
# What a verdict reads

Of the symbols a verdict reads those that the cell refers to, and only where the
cell is plain text: lookups that agree on these names give the same verdict.
-/

namespace CellGrading

/-! ## Substitution -/

section

variable {first second : Lookup}

theorem Piece.compared_congr {piece : Piece}
    (h : ∀ name ∈ piece.name?, first (.ofList name) = second (.ofList name)) :
    piece.compared first = piece.compared second := by
  cases piece with
  | char c => rfl
  | reference name =>
      have hname := h name rfl
      simp only [compared, hname]

theorem Piece.displayed_congr {piece : Piece}
    (h : ∀ name ∈ piece.name?, first (.ofList name) = second (.ofList name)) :
    piece.displayed first = piece.displayed second := by
  cases piece with
  | char c => rfl
  | reference name =>
      have hname := h name rfl
      simp only [displayed, hname]

theorem mem_referencedNames {text : String} {piece : Piece}
    (hpiece : piece ∈ Piece.split text.toList) {name : List Char} (hname : name ∈ piece.name?) :
    String.ofList name ∈ referencedNames text := by
  refine List.mem_filterMap.2 ⟨piece, hpiece, ?_⟩
  rw [Option.mem_def.1 hname]
  rfl

theorem substitute_congr {text : String}
    (h : ∀ name ∈ referencedNames text, first name = second name) :
    substitute text first = substitute text second := by
  have hpiece : ∀ piece ∈ Piece.split text.toList, ∀ name ∈ piece.name?,
      first (.ofList name) = second (.ofList name) := by
    intro piece hpiece name hname
    exact h _ (mem_referencedNames hpiece hname)
  have hcompared := List.flatMap_congr fun piece hmem =>
    Piece.compared_congr (hpiece piece hmem)
  have hdisplayed := List.flatMap_congr fun piece hmem =>
    Piece.displayed_congr (hpiece piece hmem)
  simp only [substitute, hcompared, hdisplayed]

end

/-! ## Cells -/

/-- The cell is plain text in which `$` and the name refer to a symbol. -/
def Refers (specText name : String) : Prop :=
  Spec.ofText specText = .plain specText ∧ name ∈ referencedNames specText

instance (specText name : String) : Decidable (Refers specText name) :=
  inferInstanceAs (Decidable (_ ∧ _))

theorem Spec.grade_congr [Pattern.Engine] {spec : Spec} {first second : Lookup}
    (h : ∀ text, spec = .plain text → ∀ name ∈ referencedNames text, first name = second name)
    (specText actual : String) :
    spec.grade specText actual first = spec.grade specText actual second := by
  cases spec with
  | plain text =>
      have hsubstitute := substitute_congr (h text rfl)
      simp only [grade, Grading.plain, hsubstitute]
  | _ => rfl

theorem evaluate_congr [Pattern.Engine] {specText : String} {first second : Lookup}
    (h : ∀ name, Refers specText name → first name = second name) (actual : String) :
    evaluate specText actual first = evaluate specText actual second := by
  apply Spec.grade_congr
  intro text hspec name hname
  cases Spec.eq_of_ofText_eq_plain hspec
  exact h name ⟨hspec, hname⟩

end CellGrading
