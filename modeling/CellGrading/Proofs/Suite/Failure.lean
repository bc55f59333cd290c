import CellGrading.Pattern.Basic
import CellGrading.Proofs.Suite.Bindings
import Mathlib.Data.List.Forall2

/-!
# Failing to grade

Only a pattern that the engine refuses keeps a value from being graded, and whether it
does is told by the text of the cell alone.  A run fails with the first such cell;
without one it grades every case.
-/

namespace CellGrading

section

variable [Pattern.Engine]

/-! ## Cells -/

/-- The cell asks for a pattern that the engine refuses. -/
def HasBadPattern (specText pattern : String) : Prop :=
  Spec.ofText specText = .regex pattern ∧ Pattern.Engine.compile? pattern = none

namespace Spec

def badPattern? : Spec → Option Pattern.Invalid
  | .regex pattern => if (Pattern.Engine.compile? pattern).isNone then some ⟨pattern⟩ else none
  | _ => none

theorem badPattern?_eq_some_iff (spec : Spec) (fault : Pattern.Invalid) :
    spec.badPattern? = some fault ↔
      spec = .regex fault.pattern ∧ Pattern.Engine.compile? fault.pattern = none := by
  cases spec with
  | regex pattern =>
      obtain ⟨named⟩ := fault
      simp only [badPattern?, Option.isNone_iff_eq_none, Option.ite_none_right_eq_some,
        Option.some.injEq, Pattern.Invalid.mk.injEq, Spec.regex.injEq]
      constructor
      · rintro ⟨hnone, rfl⟩
        exact ⟨rfl, hnone⟩
      · rintro ⟨rfl, hnone⟩
        exact ⟨hnone, rfl⟩
  | _ => simp [badPattern?]

theorem grade_eq_error_iff (spec : Spec) (specText actual : String) (lookup : Lookup)
    (fault : Pattern.Invalid) :
    spec.grade specText actual lookup = .error fault ↔ spec.badPattern? = some fault := by
  cases spec with
  | regex pattern =>
      simp only [grade, Grading.regex, Pattern.search, badPattern?]
      cases Pattern.Engine.compile? pattern with
      | none => simp [bind, Except.bind]
      | some found => simp [bind, Except.bind, pure, Except.pure]
  | _ => simp [grade, badPattern?]

end Spec

theorem evaluate_eq_error_iff (specText actual : String) (lookup : Lookup)
    (fault : Pattern.Invalid) :
    evaluate specText actual lookup = .error fault ↔ HasBadPattern specText fault.pattern :=
  (Spec.grade_eq_error_iff _ specText actual lookup fault).trans
    (Spec.badPattern?_eq_some_iff _ fault)

theorem Expectation.grade_eq_error_iff (instructionId : String) (column row : Nat)
    (specText actual : String) (lookup : Lookup) (fault : Pattern.Invalid) :
    Expectation.grade instructionId column row specText actual lookup = .error fault ↔
      HasBadPattern specText fault.pattern := by
  rw [← evaluate_eq_error_iff specText actual lookup, Expectation.grade,
    except_bind_eq_error_iff]
  constructor
  · rintro (h | ⟨_, -, ⟨⟩⟩)
    exact h
  · exact .inl

/-! ## Runs -/

def Case.badPattern? (entry : Case) : Option Pattern.Invalid :=
  (Spec.ofText entry.expected).badPattern?

theorem Case.badPattern?_eq_some_iff (entry : Case) (fault : Pattern.Invalid) :
    entry.badPattern? = some fault ↔ HasBadPattern entry.expected fault.pattern :=
  Spec.badPattern?_eq_some_iff _ fault

theorem Case.badPattern?_eq_none_iff (entry : Case) :
    entry.badPattern? = none ↔ ∀ pattern, ¬ HasBadPattern entry.expected pattern := by
  rw [Option.eq_none_iff_forall_ne_some]
  constructor
  · intro h pattern hbad
    exact h ⟨pattern⟩ ((badPattern?_eq_some_iff entry ⟨pattern⟩).2 hbad)
  · intro h fault hfault
    exact h fault.pattern ((badPattern?_eq_some_iff entry fault).1 hfault)

theorem Case.grade_eq_error_iff (entry : Case) (table : SymbolTable) (fault : Pattern.Invalid) :
    entry.grade table = .error fault ↔ entry.badPattern? = some fault := by
  rw [badPattern?_eq_some_iff]
  exact Expectation.grade_eq_error_iff ..

theorem gradeCases_eq_error_iff (cases : List Case) (table : SymbolTable) (tally : Tally)
    (fault : Pattern.Invalid) :
    gradeCases table tally cases = .error fault ↔
      cases.findSome? Case.badPattern? = some fault := by
  induction cases generalizing table tally with
  | nil => simp [gradeCases]
  | cons entry rest ih =>
      rw [gradeCases, except_bind_eq_error_iff, List.findSome?_cons]
      cases hgrade : entry.grade table with
      | error other =>
          have hbad := (entry.grade_eq_error_iff table other).1 hgrade
          simp [hbad]
      | ok expectation =>
          have hgood := eq_none_of_eq_ok (entry.grade_eq_error_iff table) hgrade
          rw [hgood, ← ih (table.record expectation.verdict) (tally.record expectation.outcome)]
          constructor
          · rintro (⟨⟨⟩⟩ | ⟨_, ⟨⟩, htail⟩)
            obtain hfault | ⟨_, -, ⟨⟩⟩ := except_bind_eq_error_iff.1 htail
            exact hfault
          · intro hfault
            exact .inr ⟨expectation, rfl, except_bind_eq_error_iff.2 (.inl hfault)⟩

/-- Each case has an expectation of its own, in the order of the cases. -/
def Report.Covers (report : Report) (cases : List Case) : Prop :=
  List.Forall₂ (fun entry expectation => ∃ lookup, entry.GradedAs lookup expectation)
    cases report.expectations

theorem gradeCases_covers {cases : List Case} {table : SymbolTable} {tally : Tally}
    {report : Report} (h : gradeCases table tally cases = .ok report) : report.Covers cases := by
  induction cases generalizing table tally report with
  | nil =>
      cases h
      exact .nil
  | cons entry rest ih =>
      obtain ⟨expectation, tail, hgrade, htail, rfl⟩ := gradeCases_cons_eq_ok_iff.1 h
      obtain ⟨verdict, hverdict, rfl⟩ := Case.grade_eq_ok_iff.1 hgrade
      exact .cons ⟨table.get?, rfl, rfl, rfl, hverdict⟩ (ih htail)

namespace Suite

theorem run_eq_error_iff (suite : Suite) (fault : Pattern.Invalid) :
    suite.run = .error fault ↔ suite.cases.findSome? Case.badPattern? = some fault :=
  gradeCases_eq_error_iff suite.cases suite.symbols {} fault

theorem exists_run_eq_error_iff (suite : Suite) :
    (∃ fault, suite.run = .error fault) ↔
      ∃ entry ∈ suite.cases, ∃ pattern, HasBadPattern entry.expected pattern := by
  simp only [run_eq_error_iff, ← Option.isSome_iff_exists, List.findSome?_isSome_iff]
  constructor
  · rintro ⟨entry, hentry, hbad⟩
    obtain ⟨fault, hfault⟩ := Option.isSome_iff_exists.1 hbad
    exact ⟨entry, hentry, fault.pattern, (entry.badPattern?_eq_some_iff fault).1 hfault⟩
  · rintro ⟨entry, hentry, pattern, hpattern⟩
    refine ⟨entry, hentry, Option.isSome_iff_exists.2 ⟨⟨pattern⟩, ?_⟩⟩
    exact (entry.badPattern?_eq_some_iff ⟨pattern⟩).2 hpattern

theorem exists_run_iff (suite : Suite) :
    (∃ report, suite.run = .ok report ∧ report.Covers suite.cases) ↔
      ∀ entry ∈ suite.cases, ∀ pattern, ¬ HasBadPattern entry.expected pattern := by
  have hnone : suite.cases.findSome? Case.badPattern? = none ↔
      ∀ entry ∈ suite.cases, ∀ pattern, ¬ HasBadPattern entry.expected pattern := by
    simp only [List.findSome?_eq_none_iff, Case.badPattern?_eq_none_iff]
  rw [← hnone]
  cases hrun : suite.run with
  | error fault =>
      have hfault := (suite.run_eq_error_iff fault).1 hrun
      simp [hfault]
  | ok report =>
      have hgood := eq_none_of_eq_ok suite.run_eq_error_iff hrun
      exact ⟨fun _ => hgood, fun _ => ⟨report, rfl, gradeCases_covers hrun⟩⟩

/-- Grading fails for a bad pattern only, which the error names; neither the actual
value nor a symbol has a say in it.  A run fails with the first bad pattern of the
suite, and suites with the same texts of cells fail alike; without a bad pattern
every case is reported. -/
theorem run_all_or_nothing (suite : Suite) :
    (∀ specText actual lookup fault,
      evaluate specText actual lookup = .error fault ↔
        HasBadPattern specText fault.pattern) ∧
    (∀ instructionId column row specText actual lookup fault,
      Expectation.grade instructionId column row specText actual lookup = .error fault ↔
        HasBadPattern specText fault.pattern) ∧
    (∀ fault, suite.run = .error fault ↔
      ∃ before entry after, suite.cases = before ++ entry :: after ∧
        HasBadPattern entry.expected fault.pattern ∧
        ∀ earlier ∈ before, ∀ pattern, ¬ HasBadPattern earlier.expected pattern) ∧
    (∀ other : Suite, other.cases.map Case.expected = suite.cases.map Case.expected →
      ∀ fault, other.run = .error fault ↔ suite.run = .error fault) ∧
    ((∃ report, suite.run = .ok report ∧ report.Covers suite.cases) ↔
      ∀ entry ∈ suite.cases, ∀ pattern, ¬ HasBadPattern entry.expected pattern) := by
  refine ⟨evaluate_eq_error_iff, Expectation.grade_eq_error_iff, ?_, ?_, suite.exists_run_iff⟩
  · intro fault
    rw [run_eq_error_iff, List.findSome?_eq_some_iff]
    simp only [Case.badPattern?_eq_some_iff, Case.badPattern?_eq_none_iff]
  · intro other hexpected fault
    have hmap (suite : Suite) : suite.cases.findSome? Case.badPattern? =
        (suite.cases.map Case.expected).findSome? fun text => (Spec.ofText text).badPattern? := by
      rw [List.findSome?_map]
      rfl
    rw [run_eq_error_iff, run_eq_error_iff, hmap, hmap, hexpected]

end Suite

end

def Suite.unpatterned : Suite where
  symbols := .ofList [("X", "(")]
  cases := [
    { instructionId := "a", expected := "$X=", actual := "[" },
    { instructionId := "b", expected := "=~/[a-/", actual := "x" },
    { instructionId := "c", expected := "=~/(/", actual := "$X" }]

theorem Suite.run_unpatterned :
    HasBadPattern "=~/[a-/" "[a-" ∧ HasBadPattern "=~/(/" "(" ∧
      unpatterned.run = .error ⟨"[a-"⟩ ∧
      ¬ ∃ report, unpatterned.run = .ok report ∧ report.Covers unpatterned.cases := by
  have hfirst : HasBadPattern "=~/[a-/" "[a-" := by
    constructor
    · decide
    · cbv
  have hsecond : HasBadPattern "=~/(/" "(" := by
    constructor
    · decide
    · cbv
  obtain ⟨-, -, hfault, -, hfull⟩ := run_all_or_nothing unpatterned
  refine ⟨hfirst, hsecond, (hfault ⟨"[a-"⟩).2 ⟨[_], _, [_], rfl, hfirst, ?_⟩, ?_⟩
  · intro earlier hearlier pattern hbad
    cases List.mem_singleton.1 hearlier
    have hcapture : Spec.ofText "$X=" = .capture "X" := by decide
    cases hcapture.symm.trans hbad.1
  · rw [hfull]
    intro hnone
    exact hnone { instructionId := "b", expected := "=~/[a-/", actual := "x" }
      (by simp [unpatterned]) "[a-" hfirst

end CellGrading
