import CellGrading.Pattern.Basic
import CellGrading.Proofs.Verdict.EqualValues

/-!
# Cells that ask about one number

How the outcomes of several cells hang together when they grade one actual text.  An
interval is two comparisons, one for each bound.  A comparison and its negation divide
the numbers between them and both refuse every other text, and a negated operator asks
what another operator asks without a mark.
-/

namespace CellGrading

open Text

/-! ## Outcomes of gradings -/

/-- The grading ends in a verdict of this outcome. -/
def Fares (grading : Except Pattern.Invalid Verdict) (outcome : Outcome) : Prop :=
  ∃ verdict, grading = .ok verdict ∧ verdict.outcome = outcome

def Opposed (first second : Except Pattern.Invalid Verdict) : Prop :=
  Fares first .pass ∧ Fares second .fail ∨ Fares first .fail ∧ Fares second .pass

theorem Fares.unique {grading : Except Pattern.Invalid Verdict} {outcome outcome' : Outcome}
    (h : Fares grading outcome) (h' : Fares grading outcome') : outcome = outcome' := by
  obtain ⟨verdict, rfl, rfl⟩ := h
  obtain ⟨_, ⟨⟩, rfl⟩ := h'
  rfl

theorem Fares.sameOutcome {first second : Except Pattern.Invalid Verdict} {outcome : Outcome}
    (h : Fares first outcome) (h' : Fares second outcome) : SameOutcome first second := by
  obtain ⟨verdict, hverdict, rfl⟩ := h
  obtain ⟨verdict', hverdict', houtcome⟩ := h'
  exact ⟨verdict, verdict', hverdict, hverdict', houtcome.symm⟩

theorem fares_compared (found : Bool) (kind : SpecKind) (comparison specText actual : String) :
    Fares (.ok (Grading.compared found kind comparison specText actual)) (.ofMatch found) :=
  ⟨_, rfl, rfl⟩

section

variable {grading grading' : Except Pattern.Invalid Verdict} {found found' : Bool}
  (h : Fares grading (.ofMatch found)) (h' : Fares grading' (.ofMatch found'))
include h

theorem Fares.pass_iff : Fares grading .pass ↔ found = true := by
  constructor
  · intro hpass
    cases found with
    | true => rfl
    | false => cases h.unique hpass
  · rintro rfl
    exact h

theorem Fares.fail_iff : Fares grading .fail ↔ found = false := by
  constructor
  · intro hfail
    cases found with
    | true => cases h.unique hfail
    | false => rfl
  · rintro rfl
    exact h

include h'

theorem Fares.opposed (hopposite : found' = !found) : Opposed grading grading' := by
  subst hopposite
  cases found with
  | true => exact .inl ⟨h, h'⟩
  | false => exact .inr ⟨h, h'⟩

end

/-! ## Operators -/

/-- The operator with its two sides exchanged: `low < x` says `x > low`. -/
def BoundOp.mirrored : BoundOp → RelationalOp
  | .lt => .gt
  | .le => .ge

theorem BoundOp.holds_mirrored (op : BoundOp) (left right : Decimal) :
    op.mirrored.holds right left = op.holds left right := by
  cases op <;> rfl

theorem BoundOp.holds_toRelational (op : BoundOp) (left right : Decimal) :
    op.toRelational.holds left right = op.holds left right := by
  cases op <;> rfl

namespace RelationalOp

/-- The operator that holds where this one does not.  There is none for equality. -/
def opposite? : RelationalOp → Option RelationalOp
  | .lt => some .ge
  | .le => some .gt
  | .gt => some .le
  | .ge => some .lt
  | .eq => none

theorem holds_opposite {op opposite : RelationalOp} (h : op.opposite? = some opposite)
    (actual operand : Decimal) : opposite.holds actual operand = !op.holds actual operand := by
  cases op with
  | eq => cases h
  | lt | le | gt | ge =>
      cases h
      simp only [holds, Decimal.not_lt, Decimal.not_le]

theorem eq_of_compares {first second : RelationalOp} {x y : ℚ} (hfirst : first ∈ [lt, eq, gt])
    (hsecond : second ∈ [lt, eq, gt]) (h : first.compares x y = true)
    (h' : second.compares x y = true) : first = second := by
  cases first with
  | le | ge => simp at hfirst
  | lt | eq | gt =>
      cases second with
      | le | ge => simp at hsecond
      | lt | eq | gt =>
          simp only [compares, decide_eq_true_eq, reduceCtorEq] at h h' ⊢ <;> linarith

theorem existsUnique_holds (actual operand : Decimal) :
    ∃! op, op ∈ [lt, eq, gt] ∧ op.holds actual operand = true := by
  simp only [holds_eq_compares]
  generalize actual.toRat = x, operand.toRat = y
  obtain ⟨op, hop, hholds⟩ : ∃ op ∈ [lt, eq, gt], op.compares x y = true := by
    rcases lt_trichotomy x y with h | h | h
    · exact ⟨lt, by simp, decide_eq_true h⟩
    · exact ⟨eq, by simp, decide_eq_true h⟩
    · exact ⟨gt, by simp, decide_eq_true h⟩
  refine ⟨op, ⟨hop, hholds⟩, ?_⟩
  rintro other ⟨hother, hholds'⟩
  exact eq_of_compares hother hop hholds' hholds

end RelationalOp

/-! ## Tests of the actual number -/

section

variable (actual : String) (test : Decimal → Bool)

theorem numberWith_and (test' : Decimal → Bool) :
    Grading.numberWith actual (fun number => test number && test' number) =
      (Grading.numberWith actual test && Grading.numberWith actual test') := by
  unfold Grading.numberWith
  cases Decimal.ofText? actual <;> rfl

variable {actual}

theorem numberWith_of_ofText? {number : Decimal} (h : Decimal.ofText? actual = some number) :
    Grading.numberWith actual test = test number := by
  rw [Grading.numberWith, h, Option.any_some]

theorem numberWith_of_not_writes (h : ¬ ∃ x, Writes actual x) :
    Grading.numberWith actual test = false := by
  cases hread : Decimal.ofText? actual with
  | none => rw [Grading.numberWith, hread, Option.any_none]
  | some number => exact absurd ⟨_, Decimal.toRat_of_ofText? hread⟩ h

end

/-! ## Cells -/

/-- The text asks for the comparison with the literal, with blanks anywhere. -/
def AsksComparison (negated : Bool) (comparator : Shape.Comparator) (literal : List Char)
    (text : String) : Prop :=
  ∃ gap, (Form.comparison negated comparator gap literal).Spells text

/-- The text asks for the interval between the literals, with blanks anywhere. -/
def AsksInterval (low : List Char) (lowOp highOp : BoundOp) (high : List Char)
    (text : String) : Prop :=
  ∃ gap₁ gap₂ gap₃ gap₄,
    (Form.interval low gap₁ lowOp gap₂ gap₃ highOp gap₄ high).Spells text

def Shape.Comparator.holds (comparator : Shape.Comparator) (operand : Literal)
    (number : Decimal) : Bool :=
  match comparator with
  | .exact op => op.holds number operand.value
  | .rounded => Grading.roundsTo operand number

section

variable {negated : Bool} {comparator : Shape.Comparator} {literal : List Char} {text : String}

theorem AsksComparison.exists_literal (h : AsksComparison negated comparator literal text) :
    ∃ operand : Literal, operand.text.toList = literal := by
  obtain ⟨gap, hwell, -⟩ := h
  obtain ⟨operand, -, htext⟩ := Literal.exists_ofText? hwell.2
  exact ⟨operand, htext⟩

theorem AsksComparison.fares [Pattern.Engine] {operand : Literal}
    (h : AsksComparison negated comparator operand.text.toList text) (actual : String)
    (lookup : Lookup) :
    Fares (evaluate text actual lookup)
      (.ofMatch (Grading.numberWith actual fun number =>
        comparator.holds operand number != negated)) := by
  obtain ⟨gap, hspells⟩ := h
  cases comparator with
  | exact op =>
      obtain ⟨operand', htext, heval⟩ := exists_evaluate_relational hspells actual lookup
      cases Literal.ext_of_toList htext
      rw [heval, Grading.relational]
      exact fares_compared ..
  | rounded =>
      obtain ⟨operand', htext, heval⟩ := exists_evaluate_approx hspells actual lookup
      cases Literal.ext_of_toList htext
      rw [heval, Grading.approx]
      exact fares_compared ..

theorem AsksInterval.fares [Pattern.Engine] {low high : Literal} {lowOp highOp : BoundOp}
    (h : AsksInterval low.text.toList lowOp highOp high.text.toList text) (actual : String)
    (lookup : Lookup) :
    Fares (evaluate text actual lookup)
      (.ofMatch (Grading.numberWith actual (Grading.between low lowOp highOp high))) := by
  obtain ⟨gap₁, gap₂, gap₃, gap₄, hspells⟩ := h
  obtain ⟨low', high', hlow, hhigh, heval⟩ := exists_evaluate_interval hspells actual lookup
  cases Literal.ext_of_toList hlow
  cases Literal.ext_of_toList hhigh
  rw [heval, Grading.interval]
  exact fares_compared ..

end

/-! ## Intervals -/

section

variable {low high : List Char} {lowOp highOp : BoundOp} {interval lower upper : String}

/-- An interval passes when the comparisons with its two bounds pass, and fails when one of
them does not, in whatever order the bounds stand. -/
theorem evaluate_interval_bounds [Pattern.Engine]
    (hinterval : AsksInterval low lowOp highOp high interval)
    (hlower : AsksComparison false (.exact lowOp.mirrored) low lower)
    (hupper : AsksComparison false (.exact highOp.toRelational) high upper)
    (actual : String) (lookup : Lookup) :
    (Fares (evaluate interval actual lookup) .pass ↔
      Fares (evaluate lower actual lookup) .pass ∧
        Fares (evaluate upper actual lookup) .pass) ∧
    (Fares (evaluate interval actual lookup) .fail ↔
      ¬ (Fares (evaluate lower actual lookup) .pass ∧
        Fares (evaluate upper actual lookup) .pass)) := by
  obtain ⟨first, rfl⟩ := hlower.exists_literal
  obtain ⟨second, rfl⟩ := hupper.exists_literal
  have hbetween : Grading.between first lowOp highOp second = fun number =>
      lowOp.mirrored.holds number first.value && highOp.toRelational.holds number second.value := by
    funext number
    rw [Grading.between, BoundOp.holds_mirrored, BoundOp.holds_toRelational]
  have hfound := hinterval.fares actual lookup
  rw [hbetween, numberWith_and] at hfound
  have hfirst := hlower.fares actual lookup
  have hsecond := hupper.fares actual lookup
  simp only [Shape.Comparator.holds, Bool.bne_false] at hfirst hsecond
  rw [hfound.pass_iff, hfound.fail_iff, hfirst.pass_iff, hsecond.pass_iff, Bool.and_eq_true,
    Bool.and_eq_false_iff]
  refine ⟨Iff.rfl, ?_⟩
  rw [not_and_or, Bool.not_eq_true, Bool.not_eq_true]

/-- A boundary that is written in another way than the actual number lies in the interval,
and nothing lies between bounds that stand the wrong way round. -/
theorem evaluate_interval_bounds_boundary :
    (AsksInterval ['-', '.', '5'] .le .lt ['0', '7', '.'] " -.5 <=_\u3000< 07." ∧
      AsksComparison false (.exact .ge) ['-', '.', '5'] ">=\t-.5" ∧
      AsksComparison false (.exact .lt) ['0', '7', '.'] "<07.\n" ∧
      Fares (evaluate " -.5 <=_\u3000< 07." "-0.50" .nothing) .pass) ∧
    (AsksInterval ['6'] .lt .le ['5'] "6<_<=5" ∧
      AsksComparison false (.exact .gt) ['6'] "> 6" ∧
      AsksComparison false (.exact .le) ['5'] "<= 5" ∧
      Fares (evaluate "6<_<=5" "5.5" .nothing) .fail) := by
  have hinterval : AsksInterval ['-', '.', '5'] .le .lt ['0', '7', '.']
      " -.5 <=_\u3000< 07." := ⟨[' '], [], ['\u3000'], [' '], by decide +kernel⟩
  have hlower : AsksComparison false (.exact .ge) ['-', '.', '5'] ">=\t-.5" :=
    ⟨['\t'], by decide +kernel⟩
  have hupper : AsksComparison false (.exact .lt) ['0', '7', '.'] "<07.\n" :=
    ⟨[], by decide +kernel⟩
  have hcrossed : AsksInterval ['6'] .lt .le ['5'] "6<_<=5" :=
    ⟨[], [], [], [], by decide +kernel⟩
  have habove : AsksComparison false (.exact .gt) ['6'] "> 6" := ⟨[' '], by decide +kernel⟩
  have hbelow : AsksComparison false (.exact .le) ['5'] "<= 5" := ⟨[' '], by decide +kernel⟩
  have hpass := (evaluate_interval_bounds hinterval hlower hupper "-0.50" .nothing).1.2
    ⟨⟨_, rfl, by decide +kernel⟩, ⟨_, rfl, by decide +kernel⟩⟩
  have hfail := (evaluate_interval_bounds hcrossed habove hbelow "5.5" .nothing).2.2 <| by
    rintro ⟨hgt, -⟩
    cases hgt.unique ⟨_, rfl, rfl⟩
  exact ⟨⟨hinterval, hlower, hupper, hpass⟩, hcrossed, habove, hbelow, hfail⟩

end

/-! ## Negation -/

section

variable {literal : List Char} {cell : Bool → Shape.Comparator → String}

/-- Of a comparison and its negation just one passes a number and the other fails it; both
fail a text that is no number.  A negated operator has the outcome of its opposite for every
text, and a number is less than the literal, equal to it or greater, and only one of these. -/
theorem evaluate_negated_comparisons [Pattern.Engine]
    (hcell : ∀ negated comparator,
      AsksComparison negated comparator literal (cell negated comparator))
    (actual : String) (lookup : Lookup) :
    ((∃ x, Writes actual x) → ∀ comparator,
      Opposed (evaluate (cell false comparator) actual lookup)
        (evaluate (cell true comparator) actual lookup)) ∧
    ((¬ ∃ x, Writes actual x) → ∀ negated comparator,
      Fares (evaluate (cell negated comparator) actual lookup) .fail) ∧
    (∀ op opposite, op.opposite? = some opposite →
      SameOutcome (evaluate (cell true (.exact op)) actual lookup)
        (evaluate (cell false (.exact opposite)) actual lookup)) ∧
    ((∃ x, Writes actual x) → ∃! op, op ∈ [RelationalOp.lt, .eq, .gt] ∧
      Fares (evaluate (cell false (.exact op)) actual lookup) .pass) := by
  obtain ⟨operand, rfl⟩ := (hcell false .rounded).exists_literal
  have hfares := fun negated comparator => (hcell negated comparator).fares actual lookup
  refine ⟨?_, ?_, ?_, ?_⟩
  · rintro ⟨x, hwrites⟩ comparator
    obtain ⟨number, hread, -⟩ := Decimal.exists_ofText?_of_writes hwrites
    refine (hfares false comparator).opposed (hfares true comparator) ?_
    simp only [numberWith_of_ofText? _ hread, Bool.bne_true, Bool.bne_false]
  · intro hnone negated comparator
    exact (hfares negated comparator).fail_iff.2 (numberWith_of_not_writes _ hnone)
  · intro op opposite hopposite
    have htest : (fun number => (Shape.Comparator.exact op).holds operand number != true) =
        fun number => (Shape.Comparator.exact opposite).holds operand number != false := by
      funext number
      simp only [Shape.Comparator.holds, RelationalOp.holds_opposite hopposite, Bool.bne_true,
        Bool.bne_false]
    have hnegated := hfares true (.exact op)
    rw [htest] at hnegated
    exact hnegated.sameOutcome (hfares false (.exact opposite))
  · rintro ⟨x, hwrites⟩
    obtain ⟨number, hread, -⟩ := Decimal.exists_ofText?_of_writes hwrites
    have hpass (op : RelationalOp) :
        Fares (evaluate (cell false (.exact op)) actual lookup) .pass ↔
          op.holds number operand.value = true := by
      rw [(hfares false (.exact op)).pass_iff, numberWith_of_ofText? _ hread, Bool.bne_false,
        Shape.Comparator.holds]
    simp only [hpass]
    exact RelationalOp.existsUnique_holds number operand.value

def comparisonText (literal : List Char) (negated : Bool) (comparator : Shape.Comparator) :
    String :=
  .ofList (Form.comparison negated comparator [' '] literal).chars

theorem asksComparison_comparisonText (h : Numeral.IsLiteral literal) (negated : Bool)
    (comparator : Shape.Comparator) :
    AsksComparison negated comparator literal (comparisonText literal negated comparator) := by
  refine ⟨[' '], (Form.spells_iff _ _).2 ⟨⟨by decide, h⟩, [], [], blanks_nil, blanks_nil, ?_⟩⟩
  rw [comparisonText, String.toList_ofList, List.nil_append, List.append_nil]

/-- A number that rounds to the literal without being equal to it, and a text that both
`<` and its negation refuse. -/
theorem evaluate_negated_comparisons_rounded :
    (∀ negated comparator, AsksComparison negated comparator ['5', '.', '0']
      (comparisonText ['5', '.', '0'] negated comparator)) ∧
    Opposed (evaluate "~= 5.0" "+5.04" .nothing) (evaluate "!~= 5.0" "+5.04" .nothing) ∧
    Fares (evaluate "< 5.0" "five" .nothing) .fail ∧
    Fares (evaluate "!< 5.0" "five" .nothing) .fail ∧
    SameOutcome (evaluate "!< 5.0" "five" .nothing) (evaluate ">= 5.0" "five" .nothing) ∧
    ∃! op, op ∈ [RelationalOp.lt, .eq, .gt] ∧
      Fares (evaluate (comparisonText ['5', '.', '0'] false (.exact op)) "+5.04" .nothing)
        .pass := by
  have hliteral : Numeral.IsLiteral ['5', '.', '0'] := by decide
  have hcell := asksComparison_comparisonText hliteral
  have hnumber : ∃ x, Writes "+5.04" x :=
    ⟨_, Decimal.writes_of_ofText? ⟨504, 2⟩ (by decide) rfl⟩
  have hnone : ¬ ∃ x, Writes "five" x := by
    rintro ⟨x, hwrites⟩
    exact not_writes_of_ofText? (by decide) x hwrites
  obtain ⟨hopposed, -, -, hunique⟩ := evaluate_negated_comparisons hcell "+5.04" .nothing
  obtain ⟨-, hfail, hopposite, -⟩ := evaluate_negated_comparisons hcell "five" .nothing
  exact ⟨hcell, hopposed hnumber .rounded, hfail hnone false (.exact .lt),
    hfail hnone true (.exact .lt), hopposite .lt .ge rfl, hunique hnumber⟩

end

end CellGrading
