import CellGrading.Pattern.Basic
import CellGrading.Proofs.Bytewise.Classification
import CellGrading.Proofs.Bytewise.Substitution
import CellGrading.Suite.Run

/-!
# Grading by byte

Values are graded and suites are run with partial operations on texts and matches alone.  No
spec, value or lookup makes one of them fault: what comes out is the verdict or the invalid
pattern that grading gives.
-/

namespace CellGrading.Bytewise

open Text Pattern

/-! ## Comparisons -/

def numberWith (read : List Char → Option Decimal) (actual : String) (test : Decimal → Bool) :
    Except Fault Bool := do
  let found ← number read actual
  return found.any test

def equalTexts (read : List Char → Option Decimal) (expected actual : String) :
    Except Fault Bool := do
  match ← number read expected, ← number read actual with
  | some expected, some actual => return expected.same actual
  | _, _ => return expected == actual

section

variable {read : List Char → Option Decimal} (hread : Numeral.PlainReader read)
include hread

theorem numberWith_eq (actual : String) (test : Decimal → Bool) :
    numberWith read actual test = .ok (Grading.numberWith actual test) := by
  rw [numberWith, number_eq hread]
  rfl

theorem equalTexts_eq (expected actual : String) :
    equalTexts read expected actual = .ok (Grading.equalTexts expected actual) := by
  simp only [equalTexts, number_eq hread, bind, Except.bind, Grading.equalTexts]
  cases Decimal.ofText? expected <;> cases Decimal.ofText? actual <;> rfl

end

/-! ## Cells -/

def gradeSpec [Engine] (read : List Char → Option Decimal) (spec : Spec) (specText actual : String)
    (lookup : Lookup) : Except Fault (Except Invalid Verdict) :=
  match spec with
  | .blank => return .ok (Grading.blank actual)
  | .capture symbol => return .ok (Grading.capture symbol specText actual)
  | .regex pattern => return Grading.regex pattern specText actual
  | .interval low lowOp highOp high => do
      let found ← numberWith read actual (Grading.between low lowOp highOp high)
      return .ok (Grading.compared found .interval
        (low.text ++ lowOp.symbol ++ actual ++ highOp.symbol ++ high.text) specText actual)
  | .relational op negated operand => do
      let found ← numberWith read actual fun number => op.holds number operand.value != negated
      return .ok (Grading.compared found .relational
        (actual ++ Grading.negationMark negated ++ op.symbol ++ operand.text) specText actual)
  | .approx negated operand => do
      let found ← numberWith read actual fun number => Grading.roundsTo operand number != negated
      return .ok (Grading.compared found .approx
        (actual ++ Grading.negationMark negated ++ "~=" ++ operand.text) specText actual)
  | .plain text => do
      let expected ← substitute text lookup
      let found ← equalTexts read expected.compare actual
      let message := if found then "pass(" ++ expected.display ++ ")"
        else "[" ++ actual ++ "] fail(expected [" ++ expected.display ++ "])"
      return .ok (Grading.matched found .plain message expected.display actual)

section

variable [Engine] {read : List Char → Option Decimal} (hread : Numeral.PlainReader read)

include hread in
theorem gradeSpec_eq (spec : Spec) (specText actual : String) (lookup : Lookup) :
    gradeSpec read spec specText actual lookup = .ok (spec.grade specText actual lookup) := by
  cases spec with
  | blank => rfl
  | capture symbol => rfl
  | regex pattern => rfl
  | interval low lowOp highOp high =>
      rw [gradeSpec, numberWith_eq hread]
      rfl
  | relational op negated operand =>
      rw [gradeSpec, numberWith_eq hread]
      rfl
  | approx negated operand =>
      rw [gradeSpec, numberWith_eq hread]
      rfl
  | plain text =>
      simp only [gradeSpec, substitute_eq, equalTexts_eq hread, bind, Except.bind, pure,
        Except.pure, Spec.grade, Grading.plain]

def evaluate (specText actual : String) (lookup : Lookup) :
    Except Fault (Except Invalid Verdict) := do
  let spec ← classify hread specText
  gradeSpec read spec specText actual lookup

theorem evaluate_eq (specText actual : String) (lookup : Lookup) :
    evaluate hread specText actual lookup = .ok (CellGrading.evaluate specText actual lookup) := by
  rw [evaluate, classify_eq hread]
  exact gradeSpec_eq hread _ specText actual lookup

def grade (instructionId : String) (column row : Nat) (expected actual : String)
    (lookup : Lookup) : Except Fault (Except Invalid Expectation) := do
  match ← evaluate hread expected actual lookup with
  | .ok verdict => return .ok ⟨instructionId, column, row, verdict⟩
  | .error invalid => return .error invalid

theorem grade_eq (instructionId : String) (column row : Nat) (expected actual : String)
    (lookup : Lookup) :
    grade hread instructionId column row expected actual lookup =
      .ok (Expectation.grade instructionId column row expected actual lookup) := by
  rw [grade, evaluate_eq hread, Expectation.grade]
  cases CellGrading.evaluate expected actual lookup <;> rfl

/-! ## Suites -/

def gradeCases (symbols : SymbolTable) (tally : Tally) :
    List Case → Except Fault (Except Invalid Report)
  | [] => return .ok ⟨[], tally, symbols⟩
  | entry :: rest => do
      match ← grade hread entry.instructionId entry.column entry.row entry.expected entry.actual
        symbols.get? with
      | .error invalid => return .error invalid
      | .ok expectation =>
          match ← gradeCases (symbols.record expectation.verdict)
            (tally.record expectation.outcome) rest with
          | .error invalid => return .error invalid
          | .ok report =>
              return .ok { report with expectations := expectation :: report.expectations }

def run (suite : Suite) : Except Fault (Except Invalid Report) :=
  gradeCases hread suite.symbols {} suite.cases

theorem gradeCases_eq (symbols : SymbolTable) (tally : Tally) (cases : List Case) :
    gradeCases hread symbols tally cases =
      .ok (CellGrading.gradeCases symbols tally cases) := by
  induction cases generalizing symbols tally with
  | nil => rfl
  | cons entry rest ih =>
      simp only [gradeCases, CellGrading.gradeCases, grade_eq hread, Case.grade, bind, Except.bind]
      cases Expectation.grade entry.instructionId entry.column entry.row entry.expected
          entry.actual symbols.get? with
      | error invalid => rfl
      | ok expectation =>
          simp only [ih]
          cases CellGrading.gradeCases (symbols.record expectation.verdict)
            (tally.record expectation.outcome) rest <;> rfl

end

/-! ## No faults -/

/-- The patterns whose matches are read by group, with the groups that are read. -/
def readGroups : List (String × List Nat) :=
  [(capturePattern, [1]), (regexPattern, [1]), (intervalPattern, [1, 2, 3, 4]),
    (comparisonPattern, [1, 2, 3]), (symbolPattern, [0, 1])]

theorem exists_compile?_of_mem_readGroups {pattern : String} {numbers : List Nat}
    (h : (pattern, numbers) ∈ readGroups) :
    ∃ regex, compile? pattern = some regex ∧
      ∀ number ∈ numbers, number ∈ 0 :: regex.required 1 := by
  simp only [readGroups, List.mem_cons, Prod.mk.injEq, List.not_mem_nil, or_false] at h
  rcases h with ⟨rfl, rfl⟩ | ⟨rfl, rfl⟩ | ⟨rfl, rfl⟩ | ⟨rfl, rfl⟩ | ⟨rfl, rfl⟩
  · exact ⟨_, compile?_capture, by decide⟩
  · exact ⟨_, compile?_regex, by decide⟩
  · exact ⟨_, compile?_interval, by decide⟩
  · exact ⟨_, compile?_comparison, by decide⟩
  · exact ⟨_, compile?_symbol, by decide⟩

/-- Nothing that is read of a text or of a match is missing.  A number has a first byte and a
slice behind it.  Of every match, each group that is read has a part in it.  The matches of
references come one behind the other, each between two characters, and no slice begins before
the one in front of it has ended.  So classification, grading and runs fault on no spec, value,
lookup or suite, and give what they give without such operations: a value, or the pattern that
is invalid. -/
theorem grading_never_faults [Engine] {read : List Char → Option Decimal}
    (hread : Numeral.PlainReader read) :
    (∀ text, isNumber text = .ok true → (∃ byte, byteAt text 0 = .ok byte) ∧
      ∃ body, slice text 1 text.utf8ByteSize = .ok body) ∧
    (∀ pattern numbers, (pattern, numbers) ∈ readGroups → ∀ text, ∃ found,
      allMatches pattern text = .ok found ∧ ∀ first ∈ found, ∀ number ∈ numbers,
        ∃ piece, first.group text number = .ok piece) ∧
    (∀ text, ∃ found, allMatches symbolPattern text = .ok found ∧ InOrder text.toList 0 found) ∧
    (∀ text, classify hread text = .ok (Spec.ofText text)) ∧
    (∀ specText actual lookup,
      evaluate hread specText actual lookup = .ok (CellGrading.evaluate specText actual lookup)) ∧
    (∀ instructionId column row expected actual lookup,
      grade hread instructionId column row expected actual lookup =
        .ok (Expectation.grade instructionId column row expected actual lookup)) ∧
    ∀ suite, run hread suite = .ok suite.run := by
  refine ⟨?_, ?_, ?_, classify_eq hread, evaluate_eq hread, grade_eq hread, ?_⟩
  · intro text hnumber
    rw [isNumber_eq, Except.ok.injEq, Numeral.isNumeral_eq_true_iff] at hnumber
    obtain ⟨c, rest, -, hbyte, hslice⟩ := exists_byteAt_slice hnumber
    exact ⟨⟨_, hbyte⟩, _, hslice⟩
  · intro pattern numbers hmem text
    obtain ⟨regex, hregex, hnumbers⟩ := exists_compile?_of_mem_readGroups hmem
    refine ⟨regex.matchesFrom none [] text.toList, by rw [allMatches, hregex], ?_⟩
    intro first hfirst number hnumber
    exact Regex.exists_group_of_required hfirst (hnumbers number hnumber)
  · intro text
    exact ⟨_, by rw [allMatches, compile?_symbol],
      symbolRegex.inOrder_matchesFrom none [] text.toList⟩
  · exact fun suite => gradeCases_eq hread suite.symbols {} suite.cases

/-- A value and a name between characters of two bytes, a signed number, and a pattern that is
none. -/
theorem grading_never_faults_beyond_ascii :
    Numeral.PlainReader Decimal.readJoined? ∧
    evaluate Decimal.plainReader_readJoined? "é$x é" "éñ é" (fun name => some (name ++ "ñ")) =
      .ok (.ok ⟨.fail, "[éñ é] fail(expected [é$x->[xñ] é])", .plain, "é$x->[xñ] é", "éñ é",
        none⟩) ∧
    evaluate Decimal.plainReader_readJoined? "\u2003-.5 <= _ < +1." "-0.50" .nothing =
      .ok (.ok ⟨.pass, "pass(-.5<=-0.50<+1.)", .interval, "-.5 <= _ < +1.", "-0.50", none⟩) ∧
    evaluate Decimal.plainReader_readJoined? "=~/[é/" "é" .nothing = .ok (.error ⟨"[é"⟩) := by
  obtain ⟨-, -, -, -, heval, -, -⟩ := grading_never_faults Decimal.plainReader_readJoined?
  refine ⟨Decimal.plainReader_readJoined?, ?_, ?_, ?_⟩
  · rw [heval]
    decide +kernel
  · rw [heval]
    decide +kernel
  · rw [heval]
    decide +kernel

end CellGrading.Bytewise
