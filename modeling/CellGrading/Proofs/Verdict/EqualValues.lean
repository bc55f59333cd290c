import CellGrading.Pattern.Basic
import CellGrading.Proofs.Verdict.Equality

/-!
# Verdicts on equal values

One number can be written in many ways.  Which of them an actual text uses, and which of
them the literal of a comparison uses, does not matter for the outcome: every test of a
number looks at nothing but its value.
-/

namespace CellGrading

open Text

/-! ## Tests of values -/

/-- The test answers alike for decimals of one value, whatever their scales. -/
def RespectsValue (test : Decimal → Bool) : Prop :=
  ∀ first second : Decimal, first.toRat = second.toRat → test first = test second

theorem respectsValue_between (low : Literal) (lowOp highOp : BoundOp) (high : Literal) :
    RespectsValue (Grading.between low lowOp highOp high) := by
  intro first second h
  simp only [Grading.between, BoundOp.holds_eq_compares, h]

theorem respectsValue_relational (op : RelationalOp) (negated : Bool) (operand : Literal) :
    RespectsValue fun number => op.holds number operand.value != negated := by
  intro first second h
  simp only [RelationalOp.holds_eq_compares, h]

theorem respectsValue_approx (negated : Bool) (operand : Literal) :
    RespectsValue fun number => Grading.roundsTo operand number != negated := by
  intro first second h
  have hrounded := Decimal.toRat_roundTo_congr h (decimalPlaces operand.text)
  have hrounds : Grading.roundsTo operand first = Grading.roundsTo operand second := by
    rw [Bool.eq_iff_iff, Grading.roundsTo, Grading.roundsTo, Decimal.same_eq_true_iff,
      Decimal.same_eq_true_iff, hrounded]
  simp only [hrounds]

/-! ## Actual texts of one number -/

theorem Writes.isEmpty {text : String} {x : ℚ} (h : Writes text x) : text.isEmpty = false := by
  obtain ⟨numeral, hspells, -⟩ := h
  rw [String.isEmpty_eq_false_iff]
  rintro rfl
  exact hspells.ne_nil rfl

section

variable {actual actual' : String} {x : ℚ}

theorem sameValue_iff_of_writes (h : Writes actual x) (expected : String) :
    SameValue expected actual ↔ Writes expected x := by
  constructor
  · rintro (rfl | ⟨y, hexpected, hactual⟩)
    · exact h
    · rwa [hactual.unique h] at hexpected
  · intro hexpected
    exact .inr ⟨x, hexpected, h⟩

variable (h : Writes actual x) (h' : Writes actual' x)
include h h'

theorem numberWith_congr {test : Decimal → Bool} (htest : RespectsValue test) :
    Grading.numberWith actual test = Grading.numberWith actual' test := by
  obtain ⟨number, hread, rfl⟩ := Decimal.exists_ofText?_of_writes h
  obtain ⟨number', hread', hvalue⟩ := Decimal.exists_ofText?_of_writes h'
  rw [Grading.numberWith, Grading.numberWith, hread, hread']
  exact htest number number' hvalue.symm

theorem equalTexts_congr (expected : String) :
    Grading.equalTexts expected actual = Grading.equalTexts expected actual' := by
  rw [Bool.eq_iff_iff, equalTexts_eq_true_iff, equalTexts_eq_true_iff,
    sameValue_iff_of_writes h, sameValue_iff_of_writes h']

end

/-- Both gradings end in a verdict, and the verdicts have one outcome. -/
def SameOutcome (first second : Except Pattern.Invalid Verdict) : Prop :=
  ∃ verdict verdict' : Verdict, first = .ok verdict ∧ second = .ok verdict' ∧
    verdict.outcome = verdict'.outcome

theorem sameOutcome_compared {found found' : Bool} (h : found = found')
    (kind : SpecKind) (comparison comparison' specText specText' actual actual' : String) :
    SameOutcome (.ok (Grading.compared found kind comparison specText actual))
      (.ok (Grading.compared found' kind comparison' specText' actual')) :=
  ⟨_, _, rfl, rfl, congrArg Outcome.ofMatch h⟩

theorem Spec.sameOutcome_grade [Pattern.Engine] {spec : Spec} (hkind : spec.kind ≠ .regex)
    {actual actual' : String} {x : ℚ} (h : Writes actual x) (h' : Writes actual' x)
    (specText : String) (lookup : Lookup) :
    SameOutcome (spec.grade specText actual lookup) (spec.grade specText actual' lookup) := by
  cases spec with
  | blank =>
      refine ⟨_, _, rfl, rfl, ?_⟩
      simp [Grading.blank, h.isEmpty, h'.isEmpty]
  | capture symbol => exact ⟨_, _, rfl, rfl, rfl⟩
  | regex pattern => exact absurd rfl hkind
  | interval low lowOp highOp high =>
      have hfound := numberWith_congr h h' (respectsValue_between low lowOp highOp high)
      exact sameOutcome_compared hfound ..
  | relational op negated operand =>
      have hfound := numberWith_congr h h' (respectsValue_relational op negated operand)
      exact sameOutcome_compared hfound ..
  | approx negated operand =>
      have hfound := numberWith_congr h h' (respectsValue_approx negated operand)
      exact sameOutcome_compared hfound ..
  | plain text =>
      have hfound := equalTexts_congr h h' (substitute text lookup).compare
      refine ⟨_, _, rfl, rfl, ?_⟩
      rw [Grading.outcome_plain, Grading.outcome_plain, hfound]

/-! ## Literals of one number -/

def EqualLiterals (first second : List Char) : Prop :=
  ∃ numeral numeral' : Numeral, numeral.Spells first ∧ numeral'.Spells second ∧
    numeral.toRat = numeral'.toRat

instance (first second : List Char) : Decidable (EqualLiterals first second) :=
  decidable_of_iff
    ((Numeral.read? first).any fun numeral =>
      (Numeral.read? second).any fun numeral' => numeral.value.same numeral'.value) <| by
    simp [EqualLiterals, Option.any_eq_true, Numeral.read?_eq_some_iff,
      Decimal.same_eq_true_iff, Numeral.toRat_value]

theorem EqualLiterals.refl {text : List Char} (h : Numeral.IsLiteral text) :
    EqualLiterals text text := by
  obtain ⟨numeral, hspells⟩ := h
  exact ⟨numeral, numeral, hspells, hspells, rfl⟩

theorem EqualLiterals.toRat_value_eq {first second : Literal}
    (h : EqualLiterals first.text.toList second.text.toList) :
    first.value.toRat = second.value.toRat := by
  obtain ⟨numeral, numeral', hfirst, hsecond, hvalue⟩ := h
  rw [Literal.toRat_value hfirst, Literal.toRat_value hsecond, hvalue]

theorem between_congr {low low' high high' : Literal}
    (hlow : low.value.toRat = low'.value.toRat) (hhigh : high.value.toRat = high'.value.toRat)
    (lowOp highOp : BoundOp) :
    Grading.between low lowOp highOp high = Grading.between low' lowOp highOp high' := by
  funext number
  simp only [Grading.between, BoundOp.holds_eq_compares, hlow, hhigh]

namespace Form

/-- The forms ask for the same comparison, or for the same interval, with literals of the
same numbers. -/
inductive Rewrites : Form → Form → Prop
  | comparison {negated : Bool} {op : RelationalOp} {gap gap' operand operand' : List Char}
      (h : EqualLiterals operand operand') :
      Rewrites (.comparison negated (.exact op) gap operand)
        (.comparison negated (.exact op) gap' operand')
  | interval {lowOp highOp : BoundOp}
      {low gap₁ gap₂ gap₃ gap₄ high low' gap₁' gap₂' gap₃' gap₄' high' : List Char}
      (hlow : EqualLiterals low low') (hhigh : EqualLiterals high high') :
      Rewrites (.interval low gap₁ lowOp gap₂ gap₃ highOp gap₄ high)
        (.interval low' gap₁' lowOp gap₂' gap₃' highOp gap₄' high')

theorem exists_spells_of_kind {specText : String}
    (h : (Spec.ofText specText).kind = .relational ∨ (Spec.ofText specText).kind = .interval) :
    ∃ form : Form, form.Spells specText ∧ form.Rewrites form := by
  have hclassifies := Spec.classifies_ofText specText
  generalize Spec.ofText specText = spec at h hclassifies
  cases hclassifies with
  | blank hempty => simp [Spec.kind] at h
  | plain hne hform => simp [Spec.kind] at h
  | @shaped form spec hform hmeans =>
      refine ⟨form, hform, ?_⟩
      cases hmeans with
      | interval hlow hhigh => exact .interval (.refl hform.1.1) (.refl hform.1.2.1)
      | relational htext => exact .comparison (.refl hform.1.2)
      | _ => simp [Spec.kind] at h

theorem Rewrites.sameOutcome [Pattern.Engine] {form form' : Form} (h : form.Rewrites form')
    {specText specText' : String} (hspells : form.Spells specText)
    (hspells' : form'.Spells specText') (actual : String) (lookup : Lookup) :
    SameOutcome (evaluate specText actual lookup) (evaluate specText' actual lookup) := by
  cases h with
  | comparison hoperand =>
      obtain ⟨first, rfl, heval⟩ := exists_evaluate_relational hspells actual lookup
      obtain ⟨second, rfl, heval'⟩ := exists_evaluate_relational hspells' actual lookup
      rw [heval, heval', Grading.relational, Grading.relational]
      refine sameOutcome_compared ?_ ..
      simp only [RelationalOp.holds_eq_compares, hoperand.toRat_value_eq]
  | interval hlow hhigh =>
      obtain ⟨low, high, rfl, rfl, heval⟩ := exists_evaluate_interval hspells actual lookup
      obtain ⟨low', high', rfl, rfl, heval'⟩ := exists_evaluate_interval hspells' actual lookup
      rw [heval, heval', Grading.interval, Grading.interval]
      refine sameOutcome_compared ?_ ..
      rw [between_congr hlow.toRat_value_eq hhigh.toRat_value_eq]

end Form

/-! ## Gradings of equal values -/

/-- Actual texts of one number fare alike in every cell but one that asks for a pattern.
Every comparison and every interval has literals that can be rewritten, and cells that
differ in how the literals of one number are written grade every actual text alike, be it
a number or not. -/
theorem evaluate_equal_values [Pattern.Engine] (lookup : Lookup) :
    (∀ (specText actual actual' : String) (x : ℚ), (Spec.ofText specText).kind ≠ .regex →
      Writes actual x → Writes actual' x →
        SameOutcome (evaluate specText actual lookup) (evaluate specText actual' lookup)) ∧
    (∀ specText : String,
      (Spec.ofText specText).kind = .relational ∨ (Spec.ofText specText).kind = .interval →
        ∃ form : Form, form.Spells specText ∧ form.Rewrites form) ∧
    ∀ (form form' : Form) (specText specText' : String), form.Rewrites form' →
      form.Spells specText → form'.Spells specText' → ∀ actual,
        SameOutcome (evaluate specText actual lookup) (evaluate specText' actual lookup) := by
  refine ⟨?_, ?_, ?_⟩
  · intro specText actual actual' x hkind h h'
    exact Spec.sameOutcome_grade hkind h h' specText lookup
  · intro specText hkind
    exact Form.exists_spells_of_kind hkind
  · intro form form' specText specText' h hspells hspells' actual
    exact h.sameOutcome hspells hspells' actual lookup

/-- A bound symbol against a number of other digits, and an interval from a zero with a
sign to a five with a bare point. -/
theorem evaluate_equal_values_spellings :
    ((Spec.ofText "$N").kind ≠ .regex ∧ Writes ".5" (1 / 2) ∧ Writes " +00.50" (1 / 2) ∧
      SameOutcome (evaluate "$N" ".5" (SymbolTable.ofList [("N", "0.5")]).get?)
        (evaluate "$N" " +00.50" (SymbolTable.ofList [("N", "0.5")]).get?)) ∧
    (Spec.ofText "-0<=_<5.").kind = .interval ∧
      (Form.interval ['-', '0'] [] .le [] [] .lt [] ['5', '.']).Rewrites
        (.interval ['0'] [' '] .le [' '] [' '] .lt [' '] ['+', '5', '.', '0']) ∧
      SameOutcome (evaluate "-0<=_<5." "4.99" .nothing)
        (evaluate "0 <= _ < +5.0" "4.99" .nothing) := by
  have hactual : Writes ".5" (1 / 2) :=
    Decimal.writes_of_ofText? ⟨5, 1⟩ (by decide) (by norm_num)
  have hactual' : Writes " +00.50" (1 / 2) :=
    Decimal.writes_of_ofText? ⟨50, 2⟩ (by decide) (by norm_num)
  have hkind : (Spec.ofText "$N").kind ≠ .regex := by decide +kernel
  have hinterval : (Spec.ofText "-0<=_<5.").kind = .interval := by decide +kernel
  have hrewrites : (Form.interval ['-', '0'] [] .le [] [] .lt [] ['5', '.']).Rewrites
      (.interval ['0'] [' '] .le [' '] [' '] .lt [' '] ['+', '5', '.', '0']) :=
    .interval (by decide) (by decide)
  obtain ⟨hsame, -, -⟩ := evaluate_equal_values (SymbolTable.ofList [("N", "0.5")]).get?
  obtain ⟨-, -, hrewritten⟩ := evaluate_equal_values .nothing
  have hplain := hsame "$N" ".5" " +00.50" _ hkind hactual hactual'
  have hbounds := hrewritten _ _ "-0<=_<5." "0 <= _ < +5.0" hrewrites (by decide +kernel)
    (by decide +kernel) "4.99"
  exact ⟨⟨hkind, hactual, hactual', hplain⟩, hinterval, hrewrites, hbounds⟩

end CellGrading
