import CellGrading.Pattern.Basic
import CellGrading.Proofs.Suite.Bindings
import CellGrading.Proofs.Symbol.Table
import CellGrading.Proofs.Verdict.Footprint
import Mathlib.Logic.Relation

/-!
# Cases in another order

A case writes the symbol that it captures and reads those that it refers to.
Neighbours of which neither writes what the other reads or writes may change
places: the run finds the same, but for the places of the two expectations.
-/

namespace CellGrading

/-! ## Independent cases -/

namespace Case

/-- What the case captures, the other neither captures nor refers to. -/
def Spares (entry other : Case) : Prop :=
  ∀ name, entry.Captures name → ¬ other.Captures name ∧ ¬ Refers other.expected name

def Independent (first second : Case) : Prop := first.Spares second ∧ second.Spares first

theorem Independent.symm {first second : Case} (h : first.Independent second) :
    second.Independent first := And.symm h

variable {first second entry : Case} {table : SymbolTable}

theorem grade_congr [Pattern.Engine] {other : SymbolTable}
    (h : ∀ name, Refers entry.expected name → table.get? name = other.get? name) :
    entry.grade table = entry.grade other := by
  unfold grade Expectation.grade
  rw [evaluate_congr h]

theorem get?_record_of_grade [Pattern.Engine] {expectation : Expectation}
    (h : entry.grade table = .ok expectation) :
    (table.record expectation.verdict).get? = boundAfter table.get? [entry] := by
  obtain ⟨verdict, hverdict, rfl⟩ := grade_eq_ok_iff.1 h
  exact get?_record_of_evaluate hverdict

theorem grade_record_of_spares [Pattern.Engine] (hspares : first.Spares second)
    {expectation : Expectation} (h : first.grade table = .ok expectation) :
    second.grade (table.record expectation.verdict) = second.grade table := by
  apply grade_congr
  intro name hrefers
  have hcaptures : ¬ first.Captures name := fun hcaptures => (hspares name hcaptures).2 hrefers
  rw [get?_record_of_grade h, boundAfter_singleton, if_neg hcaptures]

theorem boundAfter_comm (hspares : first.Spares second) (start : Lookup) :
    boundAfter (boundAfter start [first]) [second] =
      boundAfter (boundAfter start [second]) [first] := by
  funext name
  simp only [boundAfter_singleton]
  by_cases hfirst : first.Captures name
  · have hsecond : ¬ second.Captures name := (hspares name hfirst).1
    rw [if_neg hsecond, if_pos hfirst, if_pos hfirst]
  · rw [if_neg hfirst, if_neg hfirst]

theorem Independent.grade_comm [Pattern.Engine] (h : first.Independent second)
    {expectation other : Expectation} (hfirst : first.grade table = .ok expectation)
    (hsecond : second.grade (table.record expectation.verdict) = .ok other) :
    second.grade table = .ok other ∧
      first.grade (table.record other.verdict) = .ok expectation ∧
      (table.record other.verdict).record expectation.verdict =
        (table.record expectation.verdict).record other.verdict := by
  have hsecond' : second.grade table = .ok other := by
    rw [← grade_record_of_spares h.1 hfirst, hsecond]
  have hfirst' : first.grade (table.record other.verdict) = .ok expectation := by
    rw [grade_record_of_spares h.2 hsecond', hfirst]
  refine ⟨hsecond', hfirst', SymbolTable.ext_get? ?_⟩
  rw [get?_record_of_grade hfirst', get?_record_of_grade hsecond',
    get?_record_of_grade hsecond, get?_record_of_grade hfirst, boundAfter_comm h.1]

end Case

theorem Tally.record_comm (tally : Tally) (first second : Outcome) :
    (tally.record first).record second = (tally.record second).record first := by
  cases first <;> cases second <;> rfl

/-! ## Two neighbours in a run -/

/-- The reports differ in two neighbouring expectations only, which change places;
the first of them has the index. -/
def Report.ExchangedAt (index : Nat) (report other : Report) : Prop :=
  other.tally = report.tally ∧ other.symbols = report.symbols ∧
    ∃ front first second back, front.length = index ∧
      report.expectations = front ++ first :: second :: back ∧
      other.expectations = front ++ second :: first :: back

theorem gradeCases_swap [Pattern.Engine] {first second : Case} (h : first.Independent second)
    {front back : List Case} {table : SymbolTable} {tally : Tally} {report : Report}
    (hrun : gradeCases table tally (front ++ first :: second :: back) = .ok report) :
    ∃ other, gradeCases table tally (front ++ second :: first :: back) = .ok other ∧
      report.ExchangedAt front.length other := by
  induction front generalizing table tally report with
  | nil =>
      obtain ⟨firstFound, rest, hfirst, hrest, rfl⟩ := gradeCases_cons_eq_ok_iff.1 hrun
      obtain ⟨secondFound, tail, hsecond, htail, rfl⟩ := gradeCases_cons_eq_ok_iff.1 hrest
      obtain ⟨hsecond', hfirst', htable⟩ := h.grade_comm hfirst hsecond
      rw [Tally.record_comm, ← htable] at htail
      have hrest' := gradeCases_cons_eq_ok_iff.2 ⟨firstFound, tail, hfirst', htail, rfl⟩
      exact ⟨_, gradeCases_cons_eq_ok_iff.2 ⟨secondFound, _, hsecond', hrest', rfl⟩,
        rfl, rfl, [], firstFound, secondFound, tail.expectations, rfl, rfl, rfl⟩
  | cons entry front ih =>
      obtain ⟨found, rest, hentry, hrest, rfl⟩ := gradeCases_cons_eq_ok_iff.1 hrun
      obtain ⟨other, hother, htally, hsymbols, before, x, y, after, hlength, hreport, hexchanged⟩ :=
        ih hrest
      refine ⟨_, gradeCases_cons_eq_ok_iff.2 ⟨found, other, hentry, hother, rfl⟩,
        htally, hsymbols, found :: before, x, y, after, ?_, ?_, ?_⟩
      · simp [hlength]
      · simp [hreport]
      · simp [hexchanged]

/-! ## Suites -/

namespace Suite

/-- The other suite has the case with the index and the one behind it, which are
independent, in exchanged places. -/
def SwapsAt (index : Nat) (suite other : Suite) : Prop :=
  other.symbols = suite.symbols ∧
    ∃ front first second back, front.length = index ∧ first.Independent second ∧
      suite.cases = front ++ first :: second :: back ∧
      other.cases = front ++ second :: first :: back

theorem SwapsAt.symm {index : Nat} {suite other : Suite} (h : suite.SwapsAt index other) :
    other.SwapsAt index suite := by
  obtain ⟨hsymbols, front, first, second, back, hlength, hindependent, hcases, hother⟩ := h
  exact ⟨hsymbols.symm, front, second, first, back, hlength, hindependent.symm, hother, hcases⟩

def Reordered : Suite → Suite → Prop :=
  Relation.ReflTransGen fun suite other => ∃ index, suite.SwapsAt index other

theorem Reordered.symm {suite other : Suite} (h : suite.Reordered other) :
    other.Reordered suite := by
  induction h with
  | refl => exact .refl
  | tail _ hswap ih =>
      obtain ⟨index, hswap⟩ := hswap
      exact .head ⟨index, hswap.symm⟩ ih

theorem exists_run_of_swapsAt [Pattern.Engine] {index : Nat} {suite other : Suite}
    (h : suite.SwapsAt index other) {report : Report} (hrun : suite.run = .ok report) :
    ∃ found, other.run = .ok found ∧ report.ExchangedAt index found := by
  obtain ⟨hsymbols, front, first, second, back, rfl, hindependent, hcases, hother⟩ := h
  rw [run, hcases] at hrun
  rw [run, hsymbols, hother]
  exact gradeCases_swap hindependent hrun

def findings (suite : Suite) (report : Report) : List (Case × Expectation) :=
  suite.cases.zip report.expectations

theorem perm_findings_of_exchangedAt {index : Nat} {suite other : Suite} {report found : Report}
    (h : suite.SwapsAt index other) (hreport : report.ExchangedAt index found) :
    (suite.findings report).Perm (other.findings found) := by
  obtain ⟨-, front, first, second, back, hlength, -, hcases, hother⟩ := h
  obtain ⟨-, -, before, x, y, after, hbefore, hexpectations, hexchanged⟩ := hreport
  have hfront : front.length = before.length := hlength.trans hbefore.symm
  rw [findings, findings, hcases, hother, hexpectations, hexchanged,
    List.zip_append hfront, List.zip_append hfront]
  exact (List.Perm.swap _ _ _).append_left _

theorem exists_run_of_reordered [Pattern.Engine] {suite other : Suite} (h : suite.Reordered other)
    {report : Report} (hrun : suite.run = .ok report) :
    ∃ found, other.run = .ok found ∧ found.tally = report.tally ∧
      found.symbols = report.symbols ∧ (suite.findings report).Perm (other.findings found) := by
  induction h with
  | refl => exact ⟨report, hrun, rfl, rfl, .refl _⟩
  | tail _ hswap ih =>
      obtain ⟨found, hfound, htally, hsymbols, hperm⟩ := ih
      obtain ⟨index, hswap⟩ := hswap
      obtain ⟨last, hlast, hexchanged⟩ := exists_run_of_swapsAt hswap hfound
      exact ⟨last, hlast, hexchanged.1.trans htally, hexchanged.2.1.trans hsymbols,
        hperm.trans (perm_findings_of_exchangedAt hswap hexchanged)⟩

/-- If a run of either suite that succeeds has one of the other beside it, both
succeed or neither does, and what ties the reports together holds of any two. -/
theorem run_alike [Pattern.Engine] {suite other : Suite} {alike : Report → Report → Prop}
    (hforth : ∀ {report}, suite.run = .ok report →
      ∃ found, other.run = .ok found ∧ alike report found)
    (hback : ∀ {found}, other.run = .ok found → ∃ report, suite.run = .ok report) :
    ((∃ found, other.run = .ok found) ↔ ∃ report, suite.run = .ok report) ∧
      ∀ report found, suite.run = .ok report → other.run = .ok found → alike report found := by
  refine ⟨⟨?_, ?_⟩, ?_⟩
  · rintro ⟨found, hfound⟩
    exact hback hfound
  · rintro ⟨report, hrun⟩
    obtain ⟨found, hfound, -⟩ := hforth hrun
    exact ⟨found, hfound⟩
  · intro report found hrun hfound
    obtain ⟨_, hother, halike⟩ := hforth hrun
    cases hother.symm.trans hfound
    exact halike

/-- Independent neighbours may change places: one run succeeds if the other does,
and then the two reports differ in the order of these expectations only.  So any
order that is reached in this way gives the same verdict on each case. -/
theorem run_of_reordered [Pattern.Engine] (suite other : Suite) :
    (∀ index, suite.SwapsAt index other →
      ((∃ report, other.run = .ok report) ↔ ∃ report, suite.run = .ok report) ∧
      ∀ report found, suite.run = .ok report → other.run = .ok found →
        report.ExchangedAt index found) ∧
    (suite.Reordered other →
      ((∃ report, other.run = .ok report) ↔ ∃ report, suite.run = .ok report) ∧
      ∀ report found, suite.run = .ok report → other.run = .ok found →
        found.tally = report.tally ∧ found.symbols = report.symbols ∧
          (suite.findings report).Perm (other.findings found)) := by
  constructor
  · intro index hswap
    apply run_alike (exists_run_of_swapsAt hswap)
    intro found hfound
    obtain ⟨report, hrun, -⟩ := exists_run_of_swapsAt hswap.symm hfound
    exact ⟨report, hrun⟩
  · intro hreordered
    apply run_alike (exists_run_of_reordered hreordered)
    intro found hfound
    obtain ⟨report, hrun, -⟩ := exists_run_of_reordered hreordered.symm hfound
    exact ⟨report, hrun⟩

/-- A capture and plain text that refers to another symbol and to an unbound one, in
front of a case that refers to what is captured. -/
def interleaved (second third : Case) : Suite where
  symbols := .ofList [("B", "old")]
  cases := [
    { instructionId := "a", expected := "$B=", actual := "2" }, second, third,
    { instructionId := "d", expected := "$A", actual := "1" }]

def capturing : Case := { instructionId := "b", expected := "$A=", actual := "1" }

def referring : Case := { instructionId := "c", expected := "$B and $C", actual := "2 and $C" }

theorem swapsAt_interleaved :
    (interleaved capturing referring).SwapsAt 1 (interleaved referring capturing) := by
  have hcapturing : Spec.ofText "$A=" = .capture "A" := by decide
  have hreferring : Spec.ofText "$B and $C" = .plain "$B and $C" := by decide
  have hnames : referencedNames "$B and $C" = ["B", "C"] := by decide +kernel
  have hnot : "A" ∉ referencedNames "$B and $C" := by
    rw [hnames]
    decide
  refine ⟨rfl, [_], capturing, referring, [_], rfl, ⟨?_, ?_⟩, rfl, rfl⟩
  · intro name hname
    cases hcapturing.symm.trans hname
    refine ⟨?_, fun hrefers => hnot hrefers.2⟩
    intro hcaptures
    cases hreferring.symm.trans hcaptures
  · intro name hname
    cases hreferring.symm.trans hname

theorem run_interleaved :
    (interleaved capturing referring).SwapsAt 1 (interleaved referring capturing) ∧
      (interleaved capturing referring).Reordered (interleaved referring capturing) ∧
      ∃ report found, (interleaved capturing referring).run = .ok report ∧
        (interleaved referring capturing).run = .ok found ∧
        report.ExchangedAt 1 found ∧ report.tally = ⟨2, 0, 2⟩ ∧ found.tally = ⟨2, 0, 2⟩ := by
  have hswap := swapsAt_interleaved
  have hreordered : (interleaved capturing referring).Reordered
      (interleaved referring capturing) := .single ⟨1, hswap⟩
  obtain ⟨hswapped, hpermuted⟩ :=
    run_of_reordered (interleaved capturing referring) (interleaved referring capturing)
  have htally : (interleaved capturing referring).run.map Report.tally = .ok ⟨2, 0, 2⟩ := by
    decide +kernel
  obtain ⟨report, hrun⟩ : ∃ report, (interleaved capturing referring).run = .ok report :=
    ⟨_, rfl⟩
  obtain ⟨found, hfound⟩ := (hswapped 1 hswap).1.2 ⟨report, hrun⟩
  rw [hrun] at htally
  have hsame := ((hpermuted hreordered).2 report found hrun hfound).1
  exact ⟨hswap, hreordered, report, found, hrun, hfound,
    (hswapped 1 hswap).2 report found hrun hfound, Except.ok.inj htally,
    hsame.trans (Except.ok.inj htally)⟩

end Suite

end CellGrading
