import CellGrading.Pattern.Basic
import CellGrading.Proofs.Verdict.Comparison
import CellGrading.Proofs.Verdict.Regrading
import Mathlib.Logic.Relation

/-!
# Plain text

What a cell of plain text accepts: with the values of its symbols put in, that text itself
and, where it is a number, every text of the same number.  What the values look like does
not matter, since the text is not classified once more.  Plain texts without bound symbols
fall into classes that accept one another, and the class of a number holds what `=` accepts.
-/

namespace CellGrading

open Text

/-! ## Texts of one value -/

namespace SameValue

theorem refl (text : String) : SameValue text text := .inl rfl

theorem symm {first second : String} (h : SameValue first second) : SameValue second first := by
  rcases h with rfl | ⟨x, hfirst, hsecond⟩
  · exact .inl rfl
  · exact .inr ⟨x, hsecond, hfirst⟩

theorem trans {first second third : String} (h : SameValue first second)
    (h' : SameValue second third) : SameValue first third := by
  rcases h with rfl | ⟨x, hfirst, hsecond⟩
  · exact h'
  · rcases h' with rfl | ⟨y, hsecond', hthird⟩
    · exact .inr ⟨x, hfirst, hsecond⟩
    · exact .inr ⟨x, hfirst, hsecond.unique hsecond' ▸ hthird⟩

theorem equivalence : Equivalence SameValue := ⟨refl, symm, trans⟩

end SameValue

/-! ## Cells that are numbers -/

section

variable {text : String} {x : ℚ} (h : Writes text x)
include h

theorem Writes.isOpening : ∀ c ∈ text.toList, Form.isOpening c = true := by
  obtain ⟨numeral, hspells, -⟩ := h
  obtain ⟨before, after, hbefore, hafter, htext⟩ := exists_trimChars text.toList
  rw [htext]
  intro c hc
  rcases List.mem_append.1 hc with hc | hc
  · rcases List.mem_append.1 hc with hc | hc
    · exact Form.isOpening_of_isBlank (hbefore c hc)
    · exact Form.isOpening_of_isPart (hspells.isPart c hc)
  · exact Form.isOpening_of_isBlank (hafter c hc)

theorem Writes.ofText_eq : Spec.ofText text = .plain text := by
  refine Spec.ofText_of_no_operator (by simpa using h.isEmpty) ?_
  intro c hc
  exact isOperator_of_sort rfl rfl rfl (h.isOpening c hc)

theorem Writes.not_mentions (name : String) : ¬ Mentions text name := by
  rintro ⟨-, before, after, htext, -⟩
  have hdollar := h.isOpening '$' (by simp [htext])
  exact absurd hdollar (by decide)

end

/-! ## Verdicts on plain text -/

theorem Spec.ofText_of_kind_plain {text : String} (h : (ofText text).kind = .plain) :
    ofText text = .plain text := by
  cases hspec : ofText text with
  | plain kept => rw [eq_of_ofText_eq_plain hspec]
  | _ =>
      rw [hspec] at h
      cases h

section

variable {text : String} (h : (Spec.ofText text).kind = .plain) (lookup : Lookup)
  (actual : String)
include h

theorem evaluate_of_plain [Pattern.Engine] :
    evaluate text actual lookup = .ok (Grading.plain text lookup actual) := by
  rw [evaluate, Spec.ofText_of_kind_plain h, Spec.grade]

theorem fares_plain [Pattern.Engine] :
    Fares (evaluate text actual lookup)
      (.ofMatch (Grading.equalTexts (substitute text lookup).compare actual)) :=
  ⟨_, evaluate_of_plain h lookup actual, Grading.outcome_plain text lookup actual⟩

/-- A cell of plain text passes the text with the values put in and every other text of the
same number, and fails the rest.  So it passes that text itself whatever the values are, and
if that text would be no plain text as a cell, it passes nothing else. -/
theorem evaluate_plain [Pattern.Engine] :
    ∃ verdict, evaluate text actual lookup = .ok verdict ∧ verdict.kind = .plain ∧
      verdict.Decides (SameValue (substitute text lookup).compare actual) ∧
      (verdict.message =
        if verdict.outcome = .pass then "pass(" ++ (substitute text lookup).display ++ ")"
        else "[" ++ actual ++ "] fail(expected [" ++ (substitute text lookup).display ++ "])") ∧
      (actual = (substitute text lookup).compare → verdict.outcome = .pass) ∧
      ((Spec.ofText (substitute text lookup).compare).kind ≠ .plain →
        (verdict.outcome = .pass ↔ actual = (substitute text lookup).compare)) := by
  have hdecides := decides_plain text lookup actual
  refine ⟨_, evaluate_of_plain h lookup actual, rfl, hdecides,
    message_plain text lookup actual, ?_, ?_⟩
  · rintro rfl
    exact hdecides.1.2 (.refl _)
  · intro hkind
    rw [hdecides.1]
    constructor
    · rintro (heq | ⟨x, hwrites, -⟩)
      · exact heq.symm
      · exact absurd (congrArg Spec.kind hwrites.ofText_eq) hkind
    · rintro rfl
      exact .refl _

end

theorem evaluate_plain_values :
    ((Spec.ofText "$A.$B").kind = .plain ∧
      Fares (evaluate "$A.$B" " +01.5" (SymbolTable.ofList [("A", "1"), ("B", "50\t")]).get?)
        .pass) ∧
    (Spec.ofText "$A").kind = .plain ∧
      (Spec.ofText (substitute "$A" (SymbolTable.ofList [("A", "= 5")]).get?).compare).kind ≠
        .plain ∧
      Fares (evaluate "$A" "= 5" (SymbolTable.ofList [("A", "= 5")]).get?) .pass ∧
      ¬ Fares (evaluate "$A" "5" (SymbolTable.ofList [("A", "= 5")]).get?) .pass := by
  have hnumber : (Spec.ofText "$A.$B").kind = .plain := by decide +kernel
  have hreference : (Spec.ofText "$A").kind = .plain := by decide +kernel
  have hkind : (Spec.ofText
      (substitute "$A" (SymbolTable.ofList [("A", "= 5")]).get?).compare).kind ≠ .plain := by
    decide +kernel
  refine ⟨⟨hnumber, ?_⟩, hreference, hkind, ?_, ?_⟩
  · obtain ⟨verdict, heval, -, hdecides, -⟩ := evaluate_plain hnumber
      (SymbolTable.ofList [("A", "1"), ("B", "50\t")]).get? " +01.5"
    refine ⟨verdict, heval, hdecides.1.2 (.inr ⟨3 / 2, ?_, ?_⟩)⟩
    · exact Decimal.writes_of_ofText? ⟨150, 2⟩ (by decide +kernel) (by norm_num)
    · exact Decimal.writes_of_ofText? ⟨15, 1⟩ (by decide +kernel) (by norm_num)
  · obtain ⟨verdict, heval, -, -, -, hself, -⟩ := evaluate_plain hreference
      (SymbolTable.ofList [("A", "= 5")]).get? "= 5"
    exact ⟨verdict, heval, hself (by decide +kernel)⟩
  · obtain ⟨verdict, heval, -, -, -, -, honly⟩ := evaluate_plain hreference
      (SymbolTable.ofList [("A", "= 5")]).get? "5"
    rintro ⟨verdict', heval', hpass⟩
    cases heval.symm.trans heval'
    exact absurd ((honly hkind).1 hpass) (by decide +kernel)

/-! ## Plain text as an equality -/

/-- A text that a cell compares as it stands: it is plain, and no name in it is bound. -/
structure Verbatim (lookup : Lookup) where
  text : String
  plain : (Spec.ofText text).kind = .plain
  unbound : ∀ name, Mentions text name → lookup name = none

def Verbatim.ofWrites {text : String} {x : ℚ} (h : Writes text x) (lookup : Lookup) :
    Verbatim lookup where
  text := text
  plain := congrArg Spec.kind h.ofText_eq
  unbound := fun name hname => absurd hname (h.not_mentions name)

theorem Verbatim.pass_iff [Pattern.Engine] {lookup : Lookup} (expected : Verbatim lookup)
    (actual : String) :
    Fares (evaluate expected.text actual lookup) .pass ↔ SameValue expected.text actual := by
  rw [(fares_plain expected.plain lookup actual).pass_iff,
    substitute_of_unbound expected.unbound, equalTexts_eq_true_iff]

theorem equalTexts_of_ofText? {expected : String} {number : Decimal}
    (h : Decimal.ofText? expected = some number) (actual : String) :
    Grading.equalTexts expected actual =
      Grading.numberWith actual fun other => RelationalOp.eq.holds other number := by
  unfold Grading.equalTexts Grading.numberWith
  rw [h]
  cases hactual : Decimal.ofText? actual with
  | some other => exact Decimal.same_comm number other
  | none =>
      have hne : expected ≠ actual := by
        rintro rfl
        cases h.symm.trans hactual
      simpa using hne

/-- Acceptance is an equivalence between the texts that are compared as they stand.  A
number, with blanks around it or without, is such a text, and a cell with an equals sign
before it grades every actual text alike. -/
theorem evaluate_plain_equivalence [Pattern.Engine] (lookup : Lookup) :
    Equivalence (fun expected actual : Verbatim lookup =>
      Fares (evaluate expected.text actual.text lookup) .pass) ∧
    ∀ {literal : List Char} {number equation : String}, trimChars number.toList = literal →
      AsksComparison false (.exact .eq) literal equation →
        (Spec.ofText number).kind = .plain ∧
          ∀ actual, SameOutcome (evaluate number actual lookup)
            (evaluate equation actual lookup) := by
  constructor
  · simp only [Verbatim.pass_iff]
    exact SameValue.equivalence.comap Verbatim.text
  · intro literal number equation htrim hequation
    obtain ⟨operand, rfl⟩ := hequation.exists_literal
    have hread : Decimal.ofText? number = some operand.value := by
      rw [← Decimal.ofText?_trim, trim, htrim, String.ofList_toList, operand.ofText?_text]
    have hwrites := Decimal.toRat_of_ofText? hread
    have hplain : (Spec.ofText number).kind = .plain := congrArg Spec.kind hwrites.ofText_eq
    refine ⟨hplain, fun actual => ?_⟩
    have hnumber := fares_plain hplain lookup actual
    rw [substitute_of_unbound (fun name hname => absurd hname (hwrites.not_mentions name)),
      equalTexts_of_ofText? hread] at hnumber
    have heq := hequation.fares actual lookup
    simp only [Shape.Comparator.holds, Bool.bne_false] at heq
    exact hnumber.sameOutcome heq

/-- Three spellings of five, of which the first accepts the last by way of the second, a name
that stays unbound beside an extension of it, and a fraction between blanks. -/
theorem evaluate_plain_equivalence_spellings :
    (Fares (evaluate " 05" "5.0" (SymbolTable.ofList [("AB", "5")]).get?) .pass ∧
      Fares (evaluate "+5." "5.0" (SymbolTable.ofList [("AB", "5")]).get?) .pass ∧
      Fares (evaluate " 05" "+5." (SymbolTable.ofList [("AB", "5")]).get?) .pass) ∧
    Fares (evaluate "$A" "$A" (SymbolTable.ofList [("AB", "5")]).get?) .pass ∧
    trimChars "\t-.50 ".toList = ['-', '.', '5', '0'] ∧
      AsksComparison false (.exact .eq) ['-', '.', '5', '0'] "= -.50" ∧
      SameOutcome (evaluate "\t-.50 " "abc" (SymbolTable.ofList [("AB", "5")]).get?)
        (evaluate "= -.50" "abc" (SymbolTable.ofList [("AB", "5")]).get?) := by
  have hfirst : Writes " 05" 5 := Decimal.writes_of_ofText? ⟨5, 0⟩ (by decide) (by norm_num)
  have hsecond : Writes "5.0" 5 := Decimal.writes_of_ofText? ⟨50, 1⟩ (by decide) (by norm_num)
  have hthird : Writes "+5." 5 := Decimal.writes_of_ofText? ⟨50, 1⟩ (by decide) (by norm_num)
  have hunbound : ∀ name, Mentions "$A" name →
      (SymbolTable.ofList [("AB", "5")]).get? name = none := by
    intro name hname
    have hnames : referencedNames "$A" = ["A"] := by decide +kernel
    rw [← mem_referencedNames_iff, hnames, List.mem_singleton] at hname
    subst hname
    decide +kernel
  have htrim : trimChars "\t-.50 ".toList = ['-', '.', '5', '0'] := by decide +kernel
  have hequation : AsksComparison false (.exact .eq) ['-', '.', '5', '0'] "= -.50" :=
    ⟨[' '], by decide +kernel⟩
  obtain ⟨hequivalence, hequals⟩ :=
    evaluate_plain_equivalence (SymbolTable.ofList [("AB", "5")]).get?
  have hforward : Fares (evaluate " 05" "5.0" (SymbolTable.ofList [("AB", "5")]).get?) .pass :=
    (Verbatim.pass_iff (.ofWrites hfirst _) _).2 (.inr ⟨5, hfirst, hsecond⟩)
  have hbackward : Fares (evaluate "+5." "5.0" (SymbolTable.ofList [("AB", "5")]).get?) .pass :=
    (Verbatim.pass_iff (.ofWrites hthird _) _).2 (.inr ⟨5, hthird, hsecond⟩)
  have hchain := hequivalence.trans (x := .ofWrites hfirst _) (y := .ofWrites hsecond _)
    (z := .ofWrites hthird _) hforward (hequivalence.symm (x := .ofWrites hthird _) hbackward)
  have hreference := hequivalence.refl ⟨"$A", by decide +kernel, hunbound⟩
  exact ⟨⟨hforward, hbackward, hchain⟩, hreference, htrim, hequation,
    (hequals htrim hequation).2 "abc"⟩

end CellGrading
