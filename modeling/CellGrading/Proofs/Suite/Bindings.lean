import CellGrading.Pattern.Basic
import CellGrading.Proofs.Result
import CellGrading.Suite.Run

/-!
# Bindings in a run

Which value a name has at each point of a run, in closed form: the actual text of
the last case so far that captures it, or else the value that the suite starts
with.  The table that a run hands from case to case always holds these values.
-/

namespace CellGrading

/-! ## Captures -/

/-- The case binds the name to its actual text. -/
def Case.Captures (entry : Case) (name : String) : Prop :=
  Spec.ofText entry.expected = .capture name

instance (entry : Case) (name : String) : Decidable (entry.Captures name) :=
  inferInstanceAs (Decidable (_ = _))

def lastCaptured? (cases : List Case) (name : String) : Option String :=
  (cases.reverse.find? fun entry => decide (entry.Captures name)).map Case.actual

theorem lastCaptured?_eq_some_iff (cases : List Case) (name value : String) :
    lastCaptured? cases name = some value ↔
      ∃ before entry after, cases = before ++ entry :: after ∧ entry.Captures name ∧
        entry.actual = value ∧ ∀ later ∈ after, ¬ later.Captures name := by
  simp only [lastCaptured?, Option.map_eq_some_iff, List.find?_eq_some_iff_append,
    decide_eq_true_eq]
  constructor
  · rintro ⟨entry, ⟨hcaptures, after, before, hcases, hafter⟩, hvalue⟩
    refine ⟨before.reverse, entry, after.reverse, ?_, hcaptures, hvalue, ?_⟩
    · rw [← List.reverse_reverse cases, hcases]
      simp
    · intro later hlater
      simpa using hafter later (by simpa using hlater)
  · rintro ⟨before, entry, after, rfl, hcaptures, hvalue, hafter⟩
    refine ⟨entry, ⟨hcaptures, after.reverse, before.reverse, by simp, ?_⟩, hvalue⟩
    intro later hlater
    simpa using hafter later (by simpa using hlater)

/-- What is bound behind the cases, from what is bound before them. -/
def boundAfter (start : Lookup) (cases : List Case) : Lookup :=
  fun name => (lastCaptured? cases name).or (start name)

@[simp] theorem boundAfter_nil (start : Lookup) : boundAfter start [] = start := by
  funext name
  simp [boundAfter, lastCaptured?]

theorem boundAfter_singleton (start : Lookup) (entry : Case) (name : String) :
    boundAfter start [entry] name =
      if entry.Captures name then some entry.actual else start name := by
  by_cases h : entry.Captures name <;> simp [boundAfter, lastCaptured?, h]

theorem boundAfter_append (start : Lookup) (first second : List Case) :
    boundAfter start (first ++ second) = boundAfter (boundAfter start first) second := by
  funext name
  simp only [boundAfter, lastCaptured?, List.reverse_append, List.find?_append]
  cases second.reverse.find? fun entry => decide (entry.Captures name) <;> simp

theorem boundAfter_cons (start : Lookup) (entry : Case) (rest : List Case) :
    boundAfter start (entry :: rest) = boundAfter (boundAfter start [entry]) rest :=
  boundAfter_append start [entry] rest

theorem isSome_boundAfter {start : Lookup} {name : String} (h : (start name).isSome = true)
    (cases : List Case) : (boundAfter start cases name).isSome = true := by
  simp [boundAfter, h]

/-! ## One case -/

def Spec.captured? : Spec → Option String
  | .capture symbol => some symbol
  | _ => none

theorem Spec.captured?_eq_some_iff (spec : Spec) (name : String) :
    spec.captured? = some name ↔ spec = .capture name := by
  cases spec <;> simp [captured?]

/-- A verdict asks for a binding when its spec is a capture, and then for that of
the symbol to the actual text. -/
theorem binding_of_grade [Pattern.Engine] {spec : Spec} {specText actual : String} {lookup : Lookup}
    {verdict : Verdict} (h : spec.grade specText actual lookup = .ok verdict) :
    verdict.binding = spec.captured?.map fun symbol => ⟨symbol, actual⟩ := by
  cases spec with
  | regex pattern =>
      obtain ⟨found, -, hfound⟩ := except_bind_eq_ok_iff.1 h
      cases hfound
      rfl
  | _ =>
      rw [← Except.ok.inj h]
      rfl

theorem get?_record (table : SymbolTable) (verdict : Verdict) (name : String) :
    (table.record verdict).get? name =
      match verdict.binding with
      | some binding => if name = binding.name then some binding.value else table.get? name
      | none => table.get? name := by
  unfold SymbolTable.record
  cases verdict.binding with
  | none => rfl
  | some binding => exact table.get?_insert binding.name binding.value name

theorem get?_record_of_evaluate [Pattern.Engine] {entry : Case} {table : SymbolTable}
    {verdict : Verdict} (h : evaluate entry.expected entry.actual table.get? = .ok verdict) :
    (table.record verdict).get? = boundAfter table.get? [entry] := by
  funext name
  rw [get?_record, binding_of_grade h, boundAfter_singleton]
  have hcaptures : entry.Captures name ↔ (Spec.ofText entry.expected).captured? = some name :=
    (Spec.captured?_eq_some_iff _ name).symm
  cases hsymbol : (Spec.ofText entry.expected).captured? with
  | none => simp [hcaptures, hsymbol]
  | some symbol => simp [hcaptures, hsymbol, eq_comm]

theorem Case.grade_eq_ok_iff [Pattern.Engine] {entry : Case} {table : SymbolTable}
    {expectation : Expectation} :
    entry.grade table = .ok expectation ↔
      ∃ verdict, evaluate entry.expected entry.actual table.get? = .ok verdict ∧
        expectation = ⟨entry.instructionId, entry.column, entry.row, verdict⟩ := by
  rw [Case.grade, Expectation.grade, except_bind_eq_ok_iff]
  constructor
  · rintro ⟨verdict, hverdict, ⟨⟩⟩
    exact ⟨verdict, hverdict, rfl⟩
  · rintro ⟨verdict, hverdict, rfl⟩
    exact ⟨verdict, hverdict, rfl⟩

/-! ## Runs -/

/-- A run of a first case and others grades the case and runs the others from what
the verdict leaves. -/
theorem gradeCases_cons_eq_ok_iff [Pattern.Engine] {table : SymbolTable} {tally : Tally}
    {entry : Case} {rest : List Case} {report : Report} :
    gradeCases table tally (entry :: rest) = .ok report ↔
      ∃ expectation tail, entry.grade table = .ok expectation ∧
        gradeCases (table.record expectation.verdict) (tally.record expectation.outcome) rest =
          .ok tail ∧
        report = { tail with expectations := expectation :: tail.expectations } := by
  rw [gradeCases, except_bind_eq_ok_iff]
  constructor
  · rintro ⟨expectation, hgrade, h⟩
    obtain ⟨tail, htail, ⟨⟩⟩ := except_bind_eq_ok_iff.1 h
    exact ⟨expectation, tail, hgrade, htail, rfl⟩
  · rintro ⟨expectation, tail, hgrade, htail, rfl⟩
    exact ⟨expectation, hgrade, except_bind_eq_ok_iff.2 ⟨tail, htail, rfl⟩⟩

/-- A case as it is graded with the names bound that the lookup gives. -/
def Case.GradedAs [Pattern.Engine] (entry : Case) (lookup : Lookup)
    (expectation : Expectation) : Prop :=
  expectation.instructionId = entry.instructionId ∧ expectation.column = entry.column ∧
    expectation.row = entry.row ∧
    evaluate entry.expected entry.actual lookup = .ok expectation.verdict

/-- Each case of a run is graded with what is bound behind the cases before it, and
the table in the end holds what is bound behind them all. -/
theorem gradeCases_closed_form [Pattern.Engine] {cases : List Case} {table : SymbolTable}
    {tally : Tally} {report : Report} (h : gradeCases table tally cases = .ok report) :
    report.expectations.length = cases.length ∧
      (∀ (index : Nat) (entry : Case), cases[index]? = some entry →
        ∃ expectation, report.expectations[index]? = some expectation ∧
          entry.GradedAs (boundAfter table.get? (cases.take index)) expectation) ∧
      report.symbols.get? = boundAfter table.get? cases := by
  induction cases generalizing table tally report with
  | nil =>
      cases h
      exact ⟨rfl, by simp, by simp⟩
  | cons entry rest ih =>
      obtain ⟨expectation, tail, hgrade, hrest, rfl⟩ := gradeCases_cons_eq_ok_iff.1 h
      obtain ⟨verdict, hverdict, rfl⟩ := Case.grade_eq_ok_iff.1 hgrade
      obtain ⟨hlength, hcases, hsymbols⟩ := ih hrest
      have hstep := get?_record_of_evaluate hverdict
      simp only [hstep, ← boundAfter_cons] at hcases hsymbols
      refine ⟨by simp [hlength], ?_, hsymbols⟩
      intro index other hother
      cases index with
      | zero =>
          cases hother
          exact ⟨_, rfl, rfl, rfl, rfl, by simpa using hverdict⟩
      | succ index =>
          have hother' : rest[index]? = some other := by simpa using hother
          simpa using hcases index other hother'

theorem Suite.run_single [Pattern.Engine] {table : SymbolTable} {entry : Case} {verdict : Verdict}
    (h : evaluate entry.expected entry.actual table.get? = .ok verdict) :
    (Suite.mk table [entry]).run =
      .ok ⟨[⟨entry.instructionId, entry.column, entry.row, verdict⟩],
        ({} : Tally).record verdict.outcome, table.record verdict⟩ := by
  refine gradeCases_cons_eq_ok_iff.2 ⟨_, ⟨[], _, _⟩, ?_, rfl, rfl⟩
  exact Case.grade_eq_ok_iff.2 ⟨verdict, h, rfl⟩

/-- What is bound when the case with the index is graded; behind the last case, in
the end. -/
def Suite.boundBefore (suite : Suite) (index : Nat) : Lookup :=
  boundAfter suite.symbols.get? (suite.cases.take index)

theorem Suite.isSome_boundBefore_of_le (suite : Suite) {first second : Nat}
    (h : first ≤ second) {name : String}
    (hbound : (suite.boundBefore first name).isSome = true) :
    (suite.boundBefore second name).isSome = true := by
  have hsplit : suite.cases.take second =
      suite.cases.take first ++ (suite.cases.take second).drop first := by
    have htake : (suite.cases.take second).take first = suite.cases.take first := by
      rw [List.take_take, Nat.min_eq_left h]
    rw [← htake, List.take_append_drop]
  rw [boundBefore, hsplit, boundAfter_append]
  exact isSome_boundAfter hbound _

/-- A run that succeeds graded its cases one by one, each with the captures of the
cases before it and of no others; in the end all captures are bound.  No binding is
lost on the way. -/
theorem Suite.run_closed_form [Pattern.Engine] (suite : Suite) (report : Report)
    (h : suite.run = .ok report) :
    report.expectations.length = suite.cases.length ∧
      (∀ (index : Nat) (entry : Case), suite.cases[index]? = some entry →
        ∃ expectation, report.expectations[index]? = some expectation ∧
          entry.GradedAs (suite.boundBefore index) expectation) ∧
      report.symbols.get? = suite.boundBefore suite.cases.length ∧
      (∀ (first second : Nat) (name : String), first ≤ second →
        (suite.boundBefore first name).isSome = true →
        (suite.boundBefore second name).isSome = true) := by
  obtain ⟨hlength, hcases, hsymbols⟩ := gradeCases_closed_form h
  refine ⟨hlength, hcases, ?_, ?_⟩
  · rw [hsymbols, boundBefore, List.take_length]
  · intro first second name hle hbound
    exact suite.isSome_boundBefore_of_le hle hbound

def Suite.recapturing : Suite where
  symbols := .ofList [("X", "0"), ("Y", "y")]
  cases := [
    { instructionId := "a", expected := "$X", actual := "0" },
    { instructionId := "b", expected := "$X=", actual := "1" },
    { instructionId := "c", column := 1, expected := " $X= ", actual := "$Y" },
    { instructionId := "d", row := 2, expected := "$Y $X", actual := "y $Y" }]

theorem Suite.run_recapturing :
    ∃ report, recapturing.run = .ok report ∧ report.expectations.length = 4 ∧
      report.symbols.get? "X" = some "$Y" ∧ report.symbols.get? "Y" = some "y" := by
  obtain ⟨report, h⟩ : ∃ report, recapturing.run = .ok report := ⟨_, rfl⟩
  obtain ⟨hlength, -, hsymbols, -⟩ := run_closed_form recapturing report h
  refine ⟨report, h, hlength, ?_, ?_⟩
  · rw [hsymbols]
    decide
  · rw [hsymbols]
    decide

end CellGrading
