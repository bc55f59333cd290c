import CellGrading.Pattern.Basic
import CellGrading.Proofs.Suite.Bindings
import CellGrading.Proofs.Verdict.Equality

/-!
# References to captured values

A case that captures a value and a later case that refers to it: as long as no case
between them captures the symbol again, the later one expects that value, taken as it
is and not read as a cell once more.
-/

namespace CellGrading

/-! ## The captured value -/

theorem lastCaptured?_take {cases : List Case} {first second : Nat} {capturing : Case}
    {name : String} (hlt : first < second) (hfirst : cases[first]? = some capturing)
    (hcaptures : capturing.Captures name)
    (hbetween : ∀ index entry, first < index → index < second → cases[index]? = some entry →
      ¬ entry.Captures name) :
    lastCaptured? (cases.take second) name = some capturing.actual := by
  have hget : (cases.take second)[first]? = some capturing := by
    rw [List.getElem?_take_of_lt hlt, hfirst]
  obtain ⟨hbound, heq⟩ := List.getElem?_eq_some_iff.1 hget
  have hsplit : cases.take second = (cases.take second).take first ++
      capturing :: (cases.take second).drop (first + 1) := by
    rw [← heq, ← List.drop_eq_getElem_cons hbound, List.take_append_drop]
  refine (lastCaptured?_eq_some_iff _ name capturing.actual).2
    ⟨_, capturing, _, hsplit, hcaptures, rfl, ?_⟩
  intro later hlater
  obtain ⟨offset, hoffset⟩ := List.mem_iff_getElem?.1 hlater
  rw [List.getElem?_drop, List.getElem?_take] at hoffset
  split at hoffset
  · next hindex => exact hbetween _ later (by omega) hindex hoffset
  · cases hoffset

theorem boundAfter_of_lastCaptured? {start : Lookup} {cases : List Case} {name value : String}
    (h : lastCaptured? cases name = some value) : boundAfter start cases name = some value := by
  rw [boundAfter, h, Option.some_or]

/-! ## The reference -/

/-- A case that refers to a captured value passes when its actual text is that value, or
writes the same number, and shows the value either way.  So the captured text itself
passes, whatever it is. -/
theorem Suite.run_reference [Pattern.Engine] {suite : Suite} {report : Report}
    (h : suite.run = .ok report) {name : String} {first second : Nat}
    {capturing referring : Case} (hlt : first < second)
    (hfirst : suite.cases[first]? = some capturing)
    (hsecond : suite.cases[second]? = some referring) (hcaptures : capturing.Captures name)
    (hbetween : ∀ index entry, first < index → index < second →
      suite.cases[index]? = some entry → ¬ entry.Captures name)
    (hexpected : referring.expected = "$" ++ name) :
    ∃ expectation, report.expectations[second]? = some expectation ∧
      expectation.verdict.kind = .plain ∧
      expectation.verdict.Decides (SameValue capturing.actual referring.actual) ∧
      expectation.message =
        (if expectation.outcome = .pass then
          "pass($" ++ name ++ "->[" ++ capturing.actual ++ "])"
        else "[" ++ referring.actual ++ "] fail(expected [$" ++ name ++
          "->[" ++ capturing.actual ++ "]])") ∧
      (referring.actual = capturing.actual → expectation.outcome = .pass) := by
  obtain ⟨-, hcases, -⟩ := gradeCases_closed_form h
  obtain ⟨expectation, hexpectation, -, -, -, hverdict⟩ := hcases second referring hsecond
  obtain ⟨chars, rfl, hname, -⟩ := Spec.exists_name_of_ofText_eq_capture hcaptures
  have hbound : boundAfter suite.symbols.get? (suite.cases.take second) (.ofList chars) =
      some capturing.actual :=
    boundAfter_of_lastCaptured? (lastCaptured?_take hlt hfirst hcaptures hbetween)
  obtain ⟨verdict, hreference, hkind, hdecides, hmessage⟩ :=
    exists_evaluate_reference (by rwa [String.toList_ofList]) hbound referring.actual
  rw [hexpected, hreference] at hverdict
  cases hverdict
  refine ⟨expectation, hexpectation, hkind, hdecides, hmessage, ?_⟩
  intro hsame
  exact hdecides.1.2 (.inl hsame.symm)

/-- A capture of a text that is itself a capture, a capture of another symbol behind it,
and two references. -/
def Suite.rereading : Suite where
  symbols := .ofList [("X", "x")]
  cases := [
    { instructionId := "a", expected := " $X=", actual := "$X=" },
    { instructionId := "b", expected := "$XY=", actual := "$X" },
    { instructionId := "c", expected := "$X", actual := "$X=" },
    { instructionId := "d", expected := "$X", actual := "x" }]

theorem Suite.run_rereading :
    ∃ report, rereading.run = .ok report ∧
      ∃ repeated other, report.expectations[2]? = some repeated ∧ repeated.outcome = .pass ∧
        report.expectations[3]? = some other ∧
        other.verdict.Decides (SameValue "$X=" "x") := by
  obtain ⟨report, h⟩ : ∃ report, rereading.run = .ok report := ⟨_, rfl⟩
  have hbetween : ∀ index entry, 0 < index → rereading.cases[index]? = some entry →
      ¬ entry.Captures "X" := by
    intro index entry hindex hentry
    have htail : ∀ entry ∈ rereading.cases.tail, ¬ entry.Captures "X" := by decide
    obtain ⟨offset, rfl⟩ := Nat.exists_eq_add_of_lt hindex
    exact htail entry (List.mem_of_getElem? (by simpa using hentry))
  obtain ⟨repeated, hrepeated, -, -, -, hpass⟩ := run_reference h
    (show 0 < 2 by decide) rfl rfl (show Case.Captures _ "X" by decide)
    (fun index entry hindex _ hentry => hbetween index entry hindex hentry) rfl
  obtain ⟨other, hother, -, hdecides, -⟩ := run_reference h
    (show 0 < 3 by decide) rfl rfl (show Case.Captures _ "X" by decide)
    (fun index entry hindex _ hentry => hbetween index entry hindex hentry) rfl
  exact ⟨report, h, repeated, other, hrepeated, hpass rfl, hother, hdecides⟩

end CellGrading
