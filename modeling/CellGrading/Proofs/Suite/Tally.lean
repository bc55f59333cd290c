import CellGrading.Pattern.Basic
import CellGrading.Proofs.Suite.Bindings
import CellGrading.Proofs.Verdict.WellFormed

/-!
# Counts of a run

The tally of a run counts its expectations by outcome, so whether the run succeeds is
told by the expectations.  What is ignored is told by the cases alone.  Counters of 64
bits are enough for as many cases as 64 bits can count.
-/

namespace CellGrading

namespace Tally

theorem count_record (tally : Tally) (found outcome : Outcome) :
    (tally.record found).count outcome =
      tally.count outcome + if found = outcome then 1 else 0 := by
  cases found <;> cases outcome <;> rfl

theorem count_foldl_record (tally : Tally) (outcomes : List Outcome) (outcome : Outcome) :
    (outcomes.foldl record tally).count outcome =
      tally.count outcome + outcomes.count outcome := by
  induction outcomes generalizing tally with
  | nil => rfl
  | cons found rest ih =>
      rw [List.foldl_cons, ih, count_record, List.count_cons]
      simp only [beq_iff_eq]
      omega

theorem total_foldl_record (tally : Tally) (outcomes : List Outcome) :
    (outcomes.foldl record tally).total = tally.total + outcomes.length := by
  induction outcomes generalizing tally with
  | nil => rfl
  | cons found rest ih =>
      rw [List.foldl_cons, ih, total_record, List.length_cons]
      omega

end Tally

theorem gradeCases_tally [Pattern.Engine] {symbols : SymbolTable} {tally : Tally}
    {cases : List Case} {report : Report} (h : gradeCases symbols tally cases = .ok report) :
    report.tally = (report.expectations.map Expectation.outcome).foldl Tally.record tally := by
  induction cases generalizing symbols tally report with
  | nil =>
      cases h
      rfl
  | cons entry rest ih =>
      obtain ⟨expectation, tail, -, htail, rfl⟩ := gradeCases_cons_eq_ok_iff.1 h
      simp [ih htail]

theorem gradeCases_total [Pattern.Engine] {symbols : SymbolTable} {tally : Tally}
    {cases : List Case} {report : Report} (h : gradeCases symbols tally cases = .ok report) :
    report.tally.total = tally.total + cases.length := by
  rw [gradeCases_tally h, Tally.total_foldl_record, List.length_map, (gradeCases_closed_form h).1]

theorem gradeCases_count [Pattern.Engine] {symbols : SymbolTable} {tally : Tally}
    {cases : List Case} {report : Report} (h : gradeCases symbols tally cases = .ok report)
    (outcome : Outcome) :
    report.tally.count outcome = tally.count outcome +
      report.expectations.countP fun expectation => decide (expectation.outcome = outcome) := by
  rw [gradeCases_tally h, Tally.count_foldl_record, List.count_eq_countP, List.countP_map]
  rfl

theorem Suite.isSuccess_iff [Pattern.Engine] {suite : Suite} {report : Report}
    (h : suite.run = .ok report) :
    report.isSuccess = true ↔ ∀ expectation ∈ report.expectations, expectation.outcome ≠ .fail := by
  have hfail : report.tally.fail = 0 + report.expectations.countP
      fun expectation => decide (expectation.outcome = .fail) := gradeCases_count h .fail
  rw [Report.isSuccess, hfail, Nat.zero_add, beq_iff_eq, List.countP_eq_zero]
  simp only [decide_eq_true_eq, ne_eq]

/-! ## What is ignored -/

namespace Case

/-- The value is recorded, or only reported. -/
def Unjudged (entry : Case) : Prop :=
  (∃ name, entry.Captures name) ∨ entry.expected = "" ∧ entry.actual ≠ ""

theorem kind_ofText_eq_capture_iff (entry : Case) :
    (Spec.ofText entry.expected).kind = .capture ↔ ∃ name, entry.Captures name := by
  simp only [Captures]
  cases Spec.ofText entry.expected <;> simp [Spec.kind]

instance (entry : Case) : Decidable (∃ name, entry.Captures name) :=
  decidable_of_iff _ entry.kind_ofText_eq_capture_iff

instance : DecidablePred Unjudged := fun _ => inferInstanceAs (Decidable (_ ∨ _))

theorem kind_ofText_eq_blank_iff (entry : Case) :
    (Spec.ofText entry.expected).kind = .blank ↔ entry.expected = "" := by
  constructor
  · intro hkind
    have hblank : Spec.ofText entry.expected = .blank := by
      cases hspec : Spec.ofText entry.expected <;> simp [hspec, Spec.kind] at hkind ⊢
    generalize hspec : Spec.ofText entry.expected = spec at hblank
    cases (Spec.ofText_eq_iff ..).1 hspec with
    | blank hempty => exact hempty
    | shaped _ hmeans => cases hblank ▸ hmeans
    | plain => cases hblank
  · intro hempty
    rw [hempty]
    rfl

variable {entry : Case}

theorem outcome_eq_ignore_iff [Pattern.Engine] {lookup : Lookup} {verdict : Verdict}
    (h : evaluate entry.expected entry.actual lookup = .ok verdict) :
    verdict.outcome = .ignore ↔ entry.Unjudged := by
  have harises := arises_of_evaluate h
  rw [harises.ignore_iff, harises.kind_eq, kind_ofText_eq_capture_iff, kind_ofText_eq_blank_iff]
  rfl

end Case

theorem gradeCases_countP_ignore [Pattern.Engine] {symbols : SymbolTable} {tally : Tally}
    {cases : List Case} {report : Report} (h : gradeCases symbols tally cases = .ok report) :
    (report.expectations.countP fun expectation => decide (expectation.outcome = .ignore)) =
      cases.countP fun entry => decide entry.Unjudged := by
  induction cases generalizing symbols tally report with
  | nil =>
      cases h
      rfl
  | cons entry rest ih =>
      obtain ⟨expectation, tail, hgrade, htail, rfl⟩ := gradeCases_cons_eq_ok_iff.1 h
      obtain ⟨verdict, hverdict, rfl⟩ := Case.grade_eq_ok_iff.1 hgrade
      have hignore := Case.outcome_eq_ignore_iff hverdict
      rw [List.countP_cons, List.countP_cons, ih htail]
      simp only [Expectation.outcome, hignore]

/-! ## Counters of 64 bits -/

namespace Tally

theorem count_le_total (tally : Tally) (outcome : Outcome) :
    tally.count outcome ≤ tally.total := by
  cases outcome <;> simp only [count, total] <;> omega

theorem foldlM_recordWord? {outcomes : List Outcome} {tally : Tally}
    (h : tally.total + outcomes.length < UInt64.size) :
    outcomes.foldlM recordWord? tally = some (outcomes.foldl record tally) := by
  -- The total bounds every counter, and grows by one where the list shrinks by one.
  induction outcomes generalizing tally with
  | nil => rfl
  | cons outcome rest ih =>
      have hcount := tally.count_le_total outcome
      have htotal := tally.total_record outcome
      have hroom : tally.count outcome + 1 < UInt64.size := by
        rw [List.length_cons] at h
        omega
      have hrest : rest.foldlM recordWord? (tally.record outcome) = _ := ih (by
        rw [List.length_cons] at h
        omega)
      rw [List.foldlM_cons, recordWord?, if_pos hroom]
      exact hrest

theorem toNat_totalWord (tally : Tally) :
    tally.totalWord.toNat = tally.total % UInt64.size := by
  simp [totalWord, total, Nat.add_mod]

end Tally

namespace Suite

/-- The tally of a run that succeeds counts the expectations by outcome, one for each
case; counted one by one in 64 bits, no counter overflows as long as the number of the
cases does not, nor does the total. -/
theorem run_tally [Pattern.Engine] (suite : Suite) (report : Report) (h : suite.run = .ok report) :
    (report.tally.pass =
        report.expectations.countP fun expectation => decide (expectation.outcome = .pass)) ∧
      (report.tally.fail =
        report.expectations.countP fun expectation => decide (expectation.outcome = .fail)) ∧
      (report.tally.ignore =
        report.expectations.countP fun expectation => decide (expectation.outcome = .ignore)) ∧
      report.tally.total = suite.cases.length ∧
      (report.isSuccess = true ↔
        ∀ expectation ∈ report.expectations, expectation.outcome ≠ .fail) ∧
      (report.tally.ignore = suite.cases.countP fun entry => decide entry.Unjudged) ∧
      (suite.cases.length < UInt64.size →
        (report.expectations.map Expectation.outcome).foldlM Tally.recordWord? {} =
            some report.tally ∧
          report.tally.totalWord.toNat = suite.cases.length) := by
  have hcount (outcome : Outcome) : report.tally.count outcome =
      report.expectations.countP fun expectation => decide (expectation.outcome = outcome) :=
    (gradeCases_count h outcome).trans (by cases outcome <;> exact Nat.zero_add _)
  have htotal : report.tally.total = suite.cases.length :=
    (gradeCases_total h).trans (Nat.zero_add _)
  have hlength := (gradeCases_closed_form h).1
  refine ⟨hcount .pass, hcount .fail, hcount .ignore, htotal, isSuccess_iff h,
    (hcount .ignore).trans (gradeCases_countP_ignore h), ?_⟩
  intro hcases
  constructor
  · rw [gradeCases_tally h]
    apply Tally.foldlM_recordWord?
    rw [List.length_map, hlength]
    exact (Nat.zero_add _).trans_lt hcases
  · rw [Tally.toNat_totalWord, htotal, Nat.mod_eq_of_lt hcases]

def partlyJudged : Suite where
  cases := [
    { instructionId := "a", expected := "$X=", actual := "1" },
    { instructionId := "b", expected := "$X", actual := "2" },
    { instructionId := "c", actual := "x" },
    { instructionId := "d" },
    { instructionId := "e", expected := "!= 3", actual := "3" }]

theorem run_partlyJudged :
    ∃ report, partlyJudged.run = .ok report ∧ report.tally.ignore = 2 ∧
      report.tally.total = 5 ∧
      (report.expectations.map Expectation.outcome).foldlM Tally.recordWord? {} =
        some report.tally := by
  obtain ⟨report, h⟩ : ∃ report, partlyJudged.run = .ok report := ⟨_, rfl⟩
  obtain ⟨-, -, -, htotal, -, hignore, hword⟩ := run_tally partlyJudged report h
  exact ⟨report, h, hignore.trans (by decide), htotal, (hword (by decide)).1⟩

end Suite

end CellGrading
