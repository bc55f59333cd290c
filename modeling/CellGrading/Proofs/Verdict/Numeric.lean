import CellGrading.Pattern.Basic
import CellGrading.Proofs.Decimal.Rounding
import CellGrading.Proofs.Spec.Classification
import CellGrading.Verdict.Grading

/-!
# Verdicts on numbers

What the text of a comparison says of the text of an actual value, in exact
arithmetic: the value passes when it reads as a number and the rational that it
writes stands to that of the literal as the operator asks.  How either number is
written matters only for the places of a literal that is compared after rounding.
-/

namespace CellGrading

open Text

/-! ## Texts of comparisons -/

theorem Literal.toRat_value {literal : Literal} {numeral : Numeral}
    (h : numeral.Spells literal.text.toList) : literal.value.toRat = numeral.toRat := by
  have htrim : trimChars literal.text.toList = literal.text.toList :=
    (trimChars_eq_self_iff _).2 literal.isLiteral_text.trimmed
  have hwrites : Writes literal.text numeral.toRat := ⟨numeral, by rwa [htrim], rfl⟩
  exact (Decimal.toRat_of_ofText? literal.ofText?_text).unique hwrites

section

variable {text : String} {negated : Bool} {gap literal : List Char}

theorem exists_evaluate_relational [Pattern.Engine] {op : RelationalOp}
    (h : (Form.comparison negated (.exact op) gap literal).Spells text) (actual : String)
    (lookup : Lookup) :
    ∃ operand : Literal, operand.text.toList = literal ∧
      evaluate text actual lookup =
        .ok (Grading.relational op negated operand text actual) := by
  have hmeans := Spec.means_ofText h
  unfold evaluate
  generalize Spec.ofText text = spec at hmeans ⊢
  cases hmeans with
  | relational htext => exact ⟨_, htext, rfl⟩

theorem exists_evaluate_interval [Pattern.Engine] {low gap₁ gap₂ gap₃ gap₄ high : List Char}
    {lowOp highOp : BoundOp}
    (h : (Form.interval low gap₁ lowOp gap₂ gap₃ highOp gap₄ high).Spells text)
    (actual : String) (lookup : Lookup) :
    ∃ lower upper : Literal, lower.text.toList = low ∧ upper.text.toList = high ∧
      evaluate text actual lookup =
        .ok (Grading.interval lower lowOp highOp upper text actual) := by
  have hmeans := Spec.means_ofText h
  unfold evaluate
  generalize Spec.ofText text = spec at hmeans ⊢
  cases hmeans with
  | interval hlow hhigh => exact ⟨_, _, hlow, hhigh, rfl⟩

theorem exists_evaluate_approx [Pattern.Engine]
    (h : (Form.comparison negated .rounded gap literal).Spells text) (actual : String)
    (lookup : Lookup) :
    ∃ operand : Literal, operand.text.toList = literal ∧
      evaluate text actual lookup = .ok (Grading.approx negated operand text actual) := by
  have hmeans := Spec.means_ofText h
  unfold evaluate
  generalize Spec.ofText text = spec at hmeans ⊢
  cases hmeans with
  | approx htext => exact ⟨_, htext, rfl⟩

end

/-! ## Verdicts that decide -/

/-- The verdict passes when the condition holds and fails when it does not. -/
def Verdict.Decides (verdict : Verdict) (condition : Prop) : Prop :=
  (verdict.outcome = .pass ↔ condition) ∧ (verdict.outcome = .fail ↔ ¬ condition)

theorem Verdict.Decides.ne_ignore {verdict : Verdict} {condition : Prop}
    (h : verdict.Decides condition) : verdict.outcome ≠ .ignore := by
  intro hignore
  by_cases hc : condition
  · cases hignore.symm.trans (h.1.2 hc)
  · cases hignore.symm.trans (h.2.2 hc)

theorem decides_matched {found : Bool} {condition : Prop} (h : found = true ↔ condition)
    (kind : SpecKind) (message expected actual : String) :
    (Grading.matched found kind message expected actual).Decides condition := by
  cases found <;> simp [Verdict.Decides, Grading.matched, Outcome.ofMatch, ← h]

theorem decides_compared (found : Bool) (kind : SpecKind)
    (comparison specText actual : String) :
    (Grading.compared found kind comparison specText actual).Decides (found = true) :=
  decides_matched Iff.rfl _ _ _ _

/-- A test of decimals that looks at their values only is a test of the rational that
the actual text writes. -/
theorem numberWith_eq_true_iff {test : Decimal → Bool} {holds : ℚ → Bool}
    (htest : ∀ number, test number = holds number.toRat) (actual : String) :
    Grading.numberWith actual test = true ↔ ∃ x, Writes actual x ∧ holds x = true := by
  rw [Grading.numberWith, Option.any_eq_true]
  constructor
  · rintro ⟨number, hread, hholds⟩
    exact ⟨_, Decimal.toRat_of_ofText? hread, htest number ▸ hholds⟩
  · rintro ⟨x, hwrites, hholds⟩
    obtain ⟨number, hread, rfl⟩ := Decimal.exists_ofText?_of_writes hwrites
    exact ⟨number, hread, (htest number).trans hholds⟩

theorem decides_relational {numeral : Numeral} {operand : Literal}
    (h : numeral.Spells operand.text.toList) (op : RelationalOp) (negated : Bool)
    (specText actual : String) :
    (Grading.relational op negated operand specText actual).Decides
      (∃ x, Writes actual x ∧ (op.compares x numeral.toRat != negated) = true) := by
  have htest (number : Decimal) : (op.holds number operand.value != negated) =
      (op.compares number.toRat numeral.toRat != negated) := by
    rw [op.holds_eq_compares, Literal.toRat_value h]
  rw [← numberWith_eq_true_iff htest]
  exact decides_compared _ _ _ _ _

/-! ## Rounding to the places of a literal -/

namespace Numeral

def unit (numeral : Numeral) : ℚ := 1 / 10 ^ numeral.places

/-- The rational is less than half a unit from the numeral, or just half a unit and
nearer to zero than it. -/
def Approximates (numeral : Numeral) (x : ℚ) : Prop :=
  |x - numeral.toRat| < numeral.unit / 2 ∨
    |x - numeral.toRat| = numeral.unit / 2 ∧ |numeral.toRat| > |x|

instance (numeral : Numeral) : DecidablePred numeral.Approximates := fun _ =>
  inferInstanceAs (Decidable (_ ∨ _))

end Numeral

theorem roundsTo_eq_true_iff {literal : Literal} {numeral : Numeral}
    (h : numeral.Spells literal.text.toList) (hplaces : numeral.places < 2 ^ 32)
    (number : Decimal) :
    Grading.roundsTo literal number = true ↔ numeral.Approximates number.toRat := by
  have htrim : numeral.Spells (trimChars literal.text.toList) := by
    rwa [(trimChars_eq_self_iff _).2 literal.isLiteral_text.trimmed]
  rw [Grading.roundsTo, Numeral.decimalPlaces_eq htrim hplaces, Decimal.same_eq_true_iff,
    Literal.toRat_value h, Numeral.Approximates, Numeral.unit, numeral.toRat_eq_units]
  exact Decimal.toRat_roundTo_eq_iff number numeral.places numeral.units

theorem decides_approx {numeral : Numeral} {operand : Literal}
    (h : numeral.Spells operand.text.toList) (hplaces : numeral.places < 2 ^ 32)
    (negated : Bool) (specText actual : String) :
    (Grading.approx negated operand specText actual).Decides
      (∃ x, Writes actual x ∧ (decide (numeral.Approximates x) != negated) = true) := by
  have htest (number : Decimal) : (Grading.roundsTo operand number != negated) =
      (decide (numeral.Approximates number.toRat) != negated) := by
    rw [Bool.eq_iff_iff.2 ((roundsTo_eq_true_iff h hplaces number).trans decide_eq_true_iff.symm)]
  rw [← numberWith_eq_true_iff htest]
  exact decides_compared _ _ _ _ _

/-! ## Comparisons of cells -/

section

variable {numeral : Numeral} {before gap literal after : List Char}

/-- A comparison with an operator is never in error and passes or fails by the exact
values: a text that is no number fails it, negated or not. -/
theorem evaluate_relational [Pattern.Engine] (op : RelationalOp) (negated : Bool)
    (hliteral : numeral.Spells literal) (hbefore : Blanks before) (hgap : Blanks gap)
    (hafter : Blanks after) (actual : String) (lookup : Lookup) :
    ∃ verdict,
      evaluate (.ofList (before ++ (Form.mark negated ++ (op.symbol.toList ++
        (gap ++ literal))) ++ after)) actual lookup = .ok verdict ∧
      verdict.kind = .relational ∧ verdict.outcome ≠ .ignore ∧
      verdict.Decides
        (∃ x, Writes actual x ∧ (op.compares x numeral.toRat != negated) = true) := by
  have hspells := (Form.spells_iff (.comparison negated (.exact op) gap literal) _).2
    ⟨⟨hgap, numeral, hliteral⟩, before, after, hbefore, hafter, String.toList_ofList⟩
  obtain ⟨operand, rfl, heval⟩ := exists_evaluate_relational hspells actual lookup
  have hdecides := fun specText => decides_relational hliteral op negated specText actual
  exact ⟨_, heval, rfl, (hdecides _).ne_ignore, hdecides _⟩

theorem evaluate_relational_padded :
    (⟨true, ['0', '5'], some ['9', '0']⟩ : Numeral).Spells "-05.90".toList ∧
      Blanks [' '] ∧ Blanks ['\u3000', '\n'] ∧ Blanks ['\t'] ∧
      ∃ verdict, evaluate " !>=\u3000\n-05.90\t" "-6." .nothing = .ok verdict ∧
        verdict.kind = .relational ∧ verdict.outcome = .pass := by
  have hliteral : (⟨true, ['0', '5'], some ['9', '0']⟩ : Numeral).Spells "-05.90".toList :=
    (Numeral.read?_eq_some_iff _ _).1 (by decide)
  have hoperand : (⟨true, ['0', '5'], some ['9', '0']⟩ : Numeral).toRat = -59 / 10 := by
    rw [Numeral.toRat_eq_units]
    change ((-590 : Int) : ℚ) / 10 ^ 2 = -59 / 10
    norm_num
  have hactual : Writes "-6." (-6) := by
    refine ⟨⟨true, ['6'], some []⟩, (Numeral.read?_eq_some_iff _ _).1 (by decide), ?_⟩
    rw [Numeral.toRat_eq_units]
    change ((-6 : Int) : ℚ) / 10 ^ 0 = -6
    norm_num
  obtain ⟨verdict, heval, hkind, -, hdecides⟩ := evaluate_relational .ge true hliteral
    (show Blanks [' '] by decide) (show Blanks ['\u3000', '\n'] by decide)
    (show Blanks ['\t'] by decide) "-6." .nothing
  refine ⟨hliteral, by decide, by decide, by decide, verdict, heval, hkind,
    hdecides.1.2 ⟨-6, hactual, ?_⟩⟩
  rw [hoperand]
  norm_num [RelationalOp.compares]

/-- A comparison after rounding is never in error and passes when the actual number
rounds to the literal at the places that the literal has; negated, when it does not.
A text that is no number fails either way. -/
theorem evaluate_approx [Pattern.Engine] (negated : Bool) (hliteral : numeral.Spells literal)
    (hplaces : numeral.places < 2 ^ 32) (hbefore : Blanks before) (hgap : Blanks gap)
    (hafter : Blanks after) (actual : String) (lookup : Lookup) :
    ∃ verdict,
      evaluate (.ofList (before ++ (Form.mark negated ++ ("~=".toList ++
        (gap ++ literal))) ++ after)) actual lookup = .ok verdict ∧
      verdict.kind = .approx ∧ verdict.outcome ≠ .ignore ∧
      verdict.Decides
        (∃ x, Writes actual x ∧ (decide (numeral.Approximates x) != negated) = true) := by
  have hspells := (Form.spells_iff (.comparison negated .rounded gap literal) _).2
    ⟨⟨hgap, numeral, hliteral⟩, before, after, hbefore, hafter, String.toList_ofList⟩
  obtain ⟨operand, rfl, heval⟩ := exists_evaluate_approx hspells actual lookup
  have hdecides := fun specText => decides_approx hliteral hplaces negated specText actual
  exact ⟨_, heval, rfl, (hdecides _).ne_ignore, hdecides _⟩

theorem evaluate_approx_tie :
    (⟨true, ['2'], some ['3']⟩ : Numeral).Spells "-2.3".toList ∧
      (⟨true, ['2'], some ['3']⟩ : Numeral).places < 2 ^ 32 ∧ Blanks [] ∧ Blanks [' '] ∧
      ∃ verdict, evaluate "~= -2.3" "-2.25" .nothing = .ok verdict ∧
        verdict.kind = .approx ∧ verdict.outcome = .pass := by
  have hliteral : (⟨true, ['2'], some ['3']⟩ : Numeral).Spells "-2.3".toList :=
    (Numeral.read?_eq_some_iff _ _).1 (by decide)
  have hoperand : (⟨true, ['2'], some ['3']⟩ : Numeral).toRat = -23 / 10 := by
    rw [Numeral.toRat_eq_units]
    change ((-23 : Int) : ℚ) / 10 ^ 1 = -23 / 10
    norm_num
  have hactual : Writes "-2.25" (-9 / 4) := by
    refine ⟨⟨true, ['2'], some ['2', '5']⟩, (Numeral.read?_eq_some_iff _ _).1 (by decide), ?_⟩
    rw [Numeral.toRat_eq_units]
    change ((-225 : Int) : ℚ) / 10 ^ 2 = -9 / 4
    norm_num
  obtain ⟨verdict, heval, hkind, -, hdecides⟩ := evaluate_approx false hliteral (by decide)
    (show Blanks [] by decide) (show Blanks [' '] by decide) (show Blanks [] by decide)
    "-2.25" .nothing
  refine ⟨hliteral, by decide, by decide, by decide, verdict, heval, hkind,
    hdecides.1.2 ⟨-9 / 4, hactual, ?_⟩⟩
  have htie : (⟨true, ['2'], some ['3']⟩ : Numeral).Approximates (-9 / 4) := by
    refine .inr ⟨?_, ?_⟩
    · rw [hoperand, Numeral.unit]
      change |(-9 / 4 : ℚ) - -23 / 10| = 1 / 10 ^ 1 / 2
      norm_num
    · rw [hoperand]
      norm_num
  simp [htie]

end

end CellGrading
