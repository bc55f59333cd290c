import CellGrading.Proofs.Symbol.Reference
import CellGrading.Proofs.Verdict.Numeric

/-!
# Verdicts on plain text

When a cell of plain text passes: the actual text is the expected one, or both are
numbers of one value.  A cell that is a single reference to a bound symbol expects the
value of the symbol, whatever that value looks like.
-/

namespace CellGrading

open Text

/-! ## Equal texts -/

/-- The texts are the same, or write the same number. -/
def SameValue (expected actual : String) : Prop :=
  expected = actual ∨ ∃ x, Writes expected x ∧ Writes actual x

theorem not_writes_of_ofText? {text : String} (h : Decimal.ofText? text = none) (x : ℚ) :
    ¬ Writes text x := by
  intro hwrites
  obtain ⟨number, hnumber, -⟩ := Decimal.exists_ofText?_of_writes hwrites
  cases h.symm.trans hnumber

theorem equalTexts_eq_true_iff (expected actual : String) :
    Grading.equalTexts expected actual = true ↔ SameValue expected actual := by
  unfold Grading.equalTexts SameValue
  cases hexpected : Decimal.ofText? expected with
  | none =>
      have hnone (x : ℚ) := not_writes_of_ofText? hexpected x
      simp [hnone]
  | some first =>
      cases hactual : Decimal.ofText? actual with
      | none =>
          have hnone (x : ℚ) := not_writes_of_ofText? hactual x
          simp [hnone]
      | some second =>
          have hfirst := Decimal.toRat_of_ofText? hexpected
          have hsecond := Decimal.toRat_of_ofText? hactual
          rw [Decimal.same_eq_true_iff]
          constructor
          · intro heq
            exact .inr ⟨first.toRat, hfirst, heq ▸ hsecond⟩
          · rintro (rfl | ⟨x, hx, hx'⟩)
            · exact hfirst.unique hsecond
            · rw [hfirst.unique hx, hsecond.unique hx']

section

variable (text : String) (lookup : Lookup) (actual : String)

theorem decides_plain :
    (Grading.plain text lookup actual).Decides
      (SameValue (substitute text lookup).compare actual) :=
  decides_matched (equalTexts_eq_true_iff _ _) _ _ _ _

theorem message_plain :
    (Grading.plain text lookup actual).message =
      if (Grading.plain text lookup actual).outcome = .pass then
        "pass(" ++ (substitute text lookup).display ++ ")"
      else "[" ++ actual ++ "] fail(expected [" ++ (substitute text lookup).display ++ "])" := by
  cases hfound : Grading.equalTexts (substitute text lookup).compare actual <;>
    simp [Grading.plain, Grading.matched, hfound, Outcome.ofMatch]

end

/-! ## References -/

def isOperator (c : Char) : Bool := c == '<' || c == '=' || c == '>'

theorem Form.exists_isOperator (form : Form) : ∃ c ∈ form.chars, isOperator c = true := by
  cases form with
  | capture name => exact ⟨'=', by simp [chars], rfl⟩
  | regex pattern => exact ⟨'=', by simp [chars], rfl⟩
  | interval low gap₁ lowOp gap₂ gap₃ highOp gap₄ high =>
      exact ⟨'<', by cases lowOp <;> simp [chars, BoundOp.symbol], rfl⟩
  | comparison negated comparator gap operand =>
      obtain ⟨c, hc, hoperator⟩ : ∃ c ∈ comparator.symbol.toList, isOperator c = true := by
        cases comparator with
        | rounded => exact ⟨'=', by decide, rfl⟩
        | exact op => exact List.any_eq_true.1 (by cases op <;> decide)
      exact ⟨c, by simp [chars, hc], hoperator⟩

theorem Spec.ofText_of_no_operator {text : String} (hne : text ≠ "")
    (h : ∀ c ∈ text.toList, isOperator c = false) : ofText text = .plain text := by
  refine ofText_of_not_spells hne ?_
  rintro form ⟨-, hchars⟩
  obtain ⟨c, hc, hoperator⟩ := form.exists_isOperator
  obtain ⟨before, after, -, -, htext⟩ := exists_trimChars text.toList
  have hmem : c ∈ text.toList := by
    rw [htext, hchars]
    simp [hc]
  cases (h c hmem).symm.trans hoperator

theorem isOperator_of_sort {sort : Char → Bool} (hlt : sort '<' = false)
    (heq : sort '=' = false) (hgt : sort '>' = false) {c : Char} (h : sort c = true) :
    isOperator c = false := by
  cases hoperator : isOperator c with
  | false => rfl
  | true =>
      simp only [isOperator, Bool.or_eq_true, beq_iff_eq] at hoperator
      rcases hoperator with (rfl | rfl) | rfl
      · cases hlt.symm.trans h
      · cases heq.symm.trans h
      · cases hgt.symm.trans h

theorem isOperator_of_isWord {c : Char} (h : isWord c = true) : isOperator c = false :=
  isOperator_of_sort rfl rfl rfl h

theorem IsName.isWord {name : List Char} (h : IsName name) : ∀ c ∈ name, Text.isWord c = true := by
  obtain ⟨first, rest, rfl, hfirst, hrest⟩ := h
  intro c hc
  rcases List.mem_cons.1 hc with rfl | hc
  · exact isWord_of_isAlpha hfirst
  · exact hrest c hc

section

variable {name : String} (hname : IsName name.toList)
include hname

theorem ofText_reference : Spec.ofText ("$" ++ name) = .plain ("$" ++ name) := by
  refine Spec.ofText_of_no_operator (by simp [← String.toList_inj]) ?_
  rw [String.toList_append]
  intro c hc
  rcases List.mem_append.1 hc with hc | hc
  · cases List.mem_singleton.1 hc
    rfl
  · exact isOperator_of_isWord (hname.isWord c hc)

theorem split_reference : Piece.split ("$" ++ name).toList = [.reference name.toList] := by
  have hsplit := Piece.split_reference_append hname (stopsAt_nil isWord)
  rw [List.append_nil, Piece.split] at hsplit
  rw [String.toList_append]
  exact hsplit

theorem substitute_reference {lookup : Lookup} {value : String}
    (hvalue : lookup name = some value) :
    substitute ("$" ++ name) lookup = ⟨value, "$" ++ name ++ "->[" ++ value ++ "]"⟩ := by
  unfold substitute
  rw [split_reference hname]
  simp only [List.flatMap_cons, List.flatMap_nil, List.append_nil, Piece.compared,
    Piece.displayed, String.ofList_toList, hvalue, Substitution.mk.injEq, true_and]
  rw [← String.toList_inj]
  simp

theorem exists_evaluate_reference [Pattern.Engine] {lookup : Lookup} {value : String}
    (hvalue : lookup name = some value) (actual : String) :
    ∃ verdict, evaluate ("$" ++ name) actual lookup = .ok verdict ∧ verdict.kind = .plain ∧
      verdict.Decides (SameValue value actual) ∧
      verdict.message =
        if verdict.outcome = .pass then "pass($" ++ name ++ "->[" ++ value ++ "])"
        else "[" ++ actual ++ "] fail(expected [$" ++ name ++ "->[" ++ value ++ "]])" := by
  have hsubstitute := substitute_reference hname hvalue
  have hdecides := decides_plain ("$" ++ name) lookup actual
  have hmessage := message_plain ("$" ++ name) lookup actual
  rw [hsubstitute] at hdecides hmessage
  refine ⟨Grading.plain ("$" ++ name) lookup actual, ?_, rfl, hdecides, ?_⟩
  · rw [evaluate, ofText_reference hname, Spec.grade]
  · rw [hmessage]
    split <;> rw [← String.toList_inj] <;> simp

end

end CellGrading
