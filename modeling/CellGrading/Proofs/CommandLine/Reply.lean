import CellGrading.Pattern.Basic
import CellGrading.CommandLine.Running
import CellGrading.Proofs.CommandLine.SymbolArgument
import CellGrading.Proofs.Json.Decoding
import CellGrading.Proofs.Suite.Failure
import CellGrading.Proofs.Suite.Loading
import CellGrading.Proofs.Suite.Tally

/-!
# What exit codes tell

Either something keeps a command from grading, or there are verdicts on all that it
grades.  Which of the two it is, and whether a verdict fails, is all that the exit code
depends on; how the results are printed has no part in it.
-/

namespace CellGrading.CommandLine

open Json (Value)

/-! ## Texts for readers -/

namespace OutputFormat

variable {format : OutputFormat}

theorem expectationText_of_ne_json (h : format ≠ .json) (expectation : Expectation) :
    format.expectationText expectation = line (format.verdictText expectation.verdict) := by
  cases format with
  | json => exact absurd rfl h
  | _ => rfl

theorem reportText_of_ne_json (h : format ≠ .json) (report : Report) :
    format.reportText report =
      String.join (report.expectations.map format.caseText) ++ line (tallyText report.tally) := by
  cases format with
  | json => exact absurd rfl h
  | _ => rfl

end OutputFormat

section

variable [Pattern.Engine]

/-! ## What commands grade -/

theorem check_of_evaluate {expected actual : String} {table : SymbolTable} {verdict : Verdict}
    (h : evaluate expected actual table.get? = .ok verdict) :
    check expected actual table = .ok ⟨"cli", 0, 0, verdict⟩ := by
  rw [check, Expectation.grade, h]
  rfl

namespace Command

/-- The verdicts on what a command grades, in order. -/
inductive Grades (read : FileReader) : Command → List Verdict → Prop where
  | check {expected actual : String} {symbols : List String} {format : OutputFormat}
      {table : SymbolTable} {verdict : Verdict} (hsymbols : readSymbols symbols = .ok table)
      (hverdict : evaluate expected actual table.get? = .ok verdict) :
      Grades read (.check expected actual symbols format) [verdict]
  | classify (spec : String) : Grades read (.classify spec) []
  | run {file : String} {format : OutputFormat} {suite : Suite} {report : Report}
      (hload : Suite.fromPath read file = .ok suite) (hrun : suite.run = .ok report) :
      Grades read (.run file format) (report.expectations.map Expectation.verdict)

/-- What keeps a command from grading. -/
inductive Hindered (read : FileReader) : Command → Prop where
  | malformed {expected actual argument : String} {symbols : List String}
      {format : OutputFormat} (hargument : argument ∈ symbols)
      (hmalformed : Malformed argument) : Hindered read (.check expected actual symbols format)
  | badSpec {expected actual pattern : String} {symbols : List String} {format : OutputFormat}
      (hpattern : HasBadPattern expected pattern) :
      Hindered read (.check expected actual symbols format)
  | unloadable {file : String} {format : OutputFormat} {error : LoadError}
      (hload : Suite.fromPath read file = .error error) : Hindered read (.run file format)
  | badCase {file pattern : String} {format : OutputFormat} {suite : Suite} {entry : Case}
      (hload : Suite.fromPath read file = .ok suite) (hentry : entry ∈ suite.cases)
      (hpattern : HasBadPattern entry.expected pattern) : Hindered read (.run file format)

def withFormat (format : OutputFormat) : Command → Command
  | .check expected actual symbols _ => .check expected actual symbols format
  | .classify spec => .classify spec
  | .run file _ => .run file format

section

variable {read : FileReader} {command : Command} {verdicts : List Verdict}

theorem hindered_or_grades (read : FileReader) (command : Command) :
    command.Hindered read ∨ ∃ verdicts, command.Grades read verdicts := by
  cases command with
  | check expected actual symbols format =>
      cases hsymbols : readSymbols symbols with
      | error fault =>
          obtain ⟨argument, hargument, hmalformed⟩ :=
            (exists_readSymbols_eq_error_iff symbols).1 ⟨fault, hsymbols⟩
          exact .inl (.malformed hargument hmalformed)
      | ok table =>
          cases hverdict : evaluate expected actual table.get? with
          | error fault => exact .inl (.badSpec ((evaluate_eq_error_iff ..).1 hverdict))
          | ok verdict => exact .inr ⟨_, .check hsymbols hverdict⟩
  | classify spec => exact .inr ⟨_, .classify spec⟩
  | run file format =>
      cases hload : Suite.fromPath read file with
      | error error => exact .inl (.unloadable hload)
      | ok suite =>
          cases hrun : suite.run with
          | error fault =>
              obtain ⟨entry, hentry, pattern, hpattern⟩ :=
                suite.exists_run_eq_error_iff.1 ⟨fault, hrun⟩
              exact .inl (.badCase hload hentry hpattern)
          | ok report => exact .inr ⟨_, .run hload hrun⟩

theorem Hindered.withFormat (h : command.Hindered read) (format : OutputFormat) :
    (command.withFormat format).Hindered read := by
  cases h with
  | malformed hargument hmalformed => exact .malformed hargument hmalformed
  | badSpec hpattern => exact .badSpec hpattern
  | unloadable hload => exact .unloadable hload
  | badCase hload hentry hpattern => exact .badCase hload hentry hpattern

theorem Grades.withFormat (h : command.Grades read verdicts) (format : OutputFormat) :
    (command.withFormat format).Grades read verdicts := by
  cases h with
  | check hsymbols hverdict => exact .check hsymbols hverdict
  | classify spec => exact .classify spec
  | run hload hrun => exact .run hload hrun

/-! ## How commands are performed -/

theorem perform_check {expected actual : String} {symbols : List String} {table : SymbolTable}
    {expectation : Expectation} (format : OutputFormat)
    (hsymbols : readSymbols symbols = .ok table)
    (hcheck : CommandLine.check expected actual table = .ok expectation) :
    (Command.check expected actual symbols format).perform read =
      .ok ⟨format.expectationText expectation, expectation.outcome != .fail⟩ := by
  simp only [perform, hsymbols, hcheck, Except.mapError, bind, Except.bind]
  rfl

theorem perform_run {file : String} {suite : Suite} {report : Report} (format : OutputFormat)
    (hload : Suite.fromPath read file = .ok suite) (hrun : suite.run = .ok report) :
    (Command.run file format).perform read =
      .ok ⟨format.reportText report, report.isSuccess⟩ := by
  simp only [perform, hload, hrun, Except.mapError, bind, Except.bind]
  rfl

theorem Hindered.exists_failure (h : command.Hindered read) :
    ∃ failure, command.perform read = .error failure := by
  cases h with
  | malformed hargument hmalformed =>
      obtain ⟨fault, hfault⟩ :=
        (exists_readSymbols_eq_error_iff _).2 ⟨_, hargument, hmalformed⟩
      simp [perform, hfault, Except.mapError, bind, Except.bind]
  | @badSpec expected actual pattern symbols format hpattern =>
      cases hsymbols : readSymbols symbols with
      | error fault => simp [perform, hsymbols, Except.mapError, bind, Except.bind]
      | ok table =>
          have hcheck : CommandLine.check expected actual table = .error ⟨pattern⟩ :=
            (Expectation.grade_eq_error_iff ..).2 hpattern
          simp [perform, hsymbols, hcheck, Except.mapError, bind, Except.bind]
  | unloadable hload => simp [perform, hload, Except.mapError, bind, Except.bind]
  | badCase hload hentry hpattern =>
      obtain ⟨fault, hfault⟩ :=
        (Suite.exists_run_eq_error_iff _).2 ⟨_, hentry, _, hpattern⟩
      simp [perform, hload, hfault, Except.mapError, bind, Except.bind]

theorem Grades.exists_finding (h : command.Grades read verdicts) :
    ∃ finding, command.perform read = .ok finding ∧
      (finding.success = false ↔ ∃ verdict ∈ verdicts, verdict.outcome = .fail) := by
  cases h with
  | check hsymbols hverdict =>
      refine ⟨_, perform_check _ hsymbols (check_of_evaluate hverdict), ?_⟩
      simp [Expectation.outcome]
  | classify spec => exact ⟨_, rfl, by simp⟩
  | run hload hrun =>
      refine ⟨_, perform_run _ hload hrun, ?_⟩
      rw [← Bool.not_eq_true, Suite.isSuccess_iff hrun]
      simp [Expectation.outcome]

/-! ## Exit codes -/

theorem Hindered.reply_eq (h : command.Hindered read) :
    (Reply.ofFinding (command.perform read)).exitCode = 2 ∧
      (Reply.ofFinding (command.perform read)).output = "" := by
  obtain ⟨failure, hfailure⟩ := h.exists_failure
  rw [hfailure]
  exact ⟨rfl, rfl⟩

theorem Grades.exitCode_eq (h : command.Grades read verdicts) :
    (Reply.ofFinding (command.perform read)).exitCode =
      if ∃ verdict ∈ verdicts, verdict.outcome = .fail then 1 else 0 := by
  obtain ⟨finding, hfinding, hsuccess⟩ := h.exists_finding
  rw [hfinding, Reply.ofFinding]
  by_cases hfail : ∃ verdict ∈ verdicts, verdict.outcome = .fail
  · simp [hfail, hsuccess.2 hfail]
  · simp [hfail, Bool.ne_false_iff.1 (mt hsuccess.1 hfail)]

theorem exitCode_eq_two_iff (read : FileReader) (command : Command) :
    (Reply.ofFinding (command.perform read)).exitCode = 2 ↔ command.Hindered read := by
  constructor
  · intro hcode
    obtain h | ⟨verdicts, h⟩ := command.hindered_or_grades read
    · exact h
    · rw [h.exitCode_eq] at hcode
      split at hcode <;> cases hcode
  · intro h
    exact h.reply_eq.1

theorem exitCode_withFormat (read : FileReader) (command : Command) (format : OutputFormat) :
    (Reply.ofFinding ((command.withFormat format).perform read)).exitCode =
      (Reply.ofFinding (command.perform read)).exitCode := by
  obtain h | ⟨verdicts, h⟩ := command.hindered_or_grades read
  · rw [h.reply_eq.1, (h.withFormat format).reply_eq.1]
  · rw [h.exitCode_eq, (h.withFormat format).exitCode_eq]

end

theorem decode_run_json {read : FileReader} {file : String} {suite : Suite} {report : Report}
    (hload : Suite.fromPath read file = .ok suite) (hrun : suite.run = .ok report) :
    Json.decode .ok (Reply.ofFinding ((Command.run file .json).perform read)).output =
      .ok (Value.object (("success", .bool (decide ((Reply.ofFinding
        ((Command.run file .json).perform read)).exitCode = 0))) :: report.members)).document := by
  rw [perform_run .json hload hrun]
  have hcode : (if report.isSuccess = true then 0 else 1) = 0 ↔ report.isSuccess = true := by
    cases report.isSuccess <;> decide
  simp only [Reply.ofFinding, hcode, Bool.decide_eq_true]
  exact Json.decode_pretty_line .ok report.summary

/-! ## A run of one case -/

section

variable {read : FileReader} {file : String} {symbols : List String} {table : SymbolTable}
  {entry : Case} {format : OutputFormat}

theorem Hindered.run_single (hsymbols : readSymbols symbols = .ok table)
    (hload : Suite.fromPath read file = .ok ⟨table, [entry]⟩)
    (h : (Command.check entry.expected entry.actual symbols format).Hindered read)
    (other : OutputFormat) : (Command.run file other).Hindered read := by
  cases h with
  | malformed hargument hmalformed =>
      obtain ⟨fault, hfault⟩ :=
        (exists_readSymbols_eq_error_iff _).2 ⟨_, hargument, hmalformed⟩
      cases hsymbols.symm.trans hfault
  | badSpec hpattern => exact .badCase hload (List.mem_singleton_self entry) hpattern

theorem Grades.run_single {verdicts : List Verdict} (hsymbols : readSymbols symbols = .ok table)
    (hload : Suite.fromPath read file = .ok ⟨table, [entry]⟩)
    (h : (Command.check entry.expected entry.actual symbols format).Grades read verdicts)
    (other : OutputFormat) : (Command.run file other).Grades read verdicts := by
  cases h with
  | check hsymbols' hverdict =>
      cases hsymbols.symm.trans hsymbols'
      exact .run hload (Suite.run_single hverdict)

theorem exitCode_run_single (hsymbols : readSymbols symbols = .ok table)
    (hload : Suite.fromPath read file = .ok ⟨table, [entry]⟩) (format other : OutputFormat) :
    (Reply.ofFinding ((Command.run file other).perform read)).exitCode =
      (Reply.ofFinding ((Command.check entry.expected entry.actual symbols format).perform
        read)).exitCode := by
  obtain h | ⟨verdicts, h⟩ := hindered_or_grades read
    (Command.check entry.expected entry.actual symbols format)
  · rw [h.reply_eq.1, (h.run_single hsymbols hload other).reply_eq.1]
  · rw [h.exitCode_eq, (h.run_single hsymbols hload other).exitCode_eq]

theorem output_run_single {verdict : Verdict} (hsymbols : readSymbols symbols = .ok table)
    (hload : Suite.fromPath read file = .ok ⟨table, [entry]⟩)
    (hverdict : evaluate entry.expected entry.actual table.get? = .ok verdict)
    (hformat : format ≠ .json) :
    (Reply.ofFinding ((Command.run file format).perform read)).output =
      entry.instructionId ++ " [" ++ toString entry.column ++ "," ++ toString entry.row ++ "] " ++
        (Reply.ofFinding ((Command.check entry.expected entry.actual symbols format).perform
          read)).output ++ line (tallyText (({} : Tally).record verdict.outcome)) := by
  rw [perform_run format hload (Suite.run_single hverdict),
    perform_check format hsymbols (check_of_evaluate hverdict)]
  simp only [Reply.ofFinding, OutputFormat.reportText_of_ne_json hformat,
    OutputFormat.expectationText_of_ne_json hformat, OutputFormat.caseText, List.map_cons,
    List.map_nil, String.join_cons, String.join_nil, String.append_empty, line,
    String.append_assoc]

end

end Command

/-! ## Replies -/

theorem reply_of_command {arguments : List String} {command : Command} (read : FileReader)
    (h : Command.ofArguments arguments = .ok command) :
    reply read arguments = .ofFinding (command.perform read) := by
  rw [reply, h]

/-- Either a command is hindered, the exit code is 2 and nothing is printed; or it grades,
and the exit code tells whether a verdict fails.  The exit code is the same in every
format, and the JSON of a run tells the same.  A run of one case is a check of it with the
symbols of the suite, and shows it as the check does, with its place in front. -/
theorem exitCode_reply (read : FileReader) (arguments : List String) (command : Command)
    (h : Command.ofArguments arguments = .ok command) :
    (command.Hindered read ∨ ∃ verdicts, command.Grades read verdicts) ∧
      ((reply read arguments).exitCode = 2 ↔ command.Hindered read) ∧
      ((reply read arguments).exitCode = 2 → (reply read arguments).output = "") ∧
      (∀ verdicts, command.Grades read verdicts → (reply read arguments).exitCode =
        if ∃ verdict ∈ verdicts, verdict.outcome = .fail then 1 else 0) ∧
      (∀ spec, command = .classify spec → (reply read arguments).exitCode = 0) ∧
      (∀ format others, Command.ofArguments others = .ok (command.withFormat format) →
        (reply read others).exitCode = (reply read arguments).exitCode) ∧
      (∀ file, command = .run file .json → ¬ command.Hindered read →
        ∃ suite report, Suite.fromPath read file = .ok suite ∧ suite.run = .ok report ∧
          Json.decode .ok (reply read arguments).output =
            .ok (Value.object (("success", .bool (decide ((reply read arguments).exitCode = 0))) ::
              report.members)).document) ∧
      (∀ entry symbols format table others file other,
        command = .check entry.expected entry.actual symbols format →
        readSymbols symbols = .ok table → Command.ofArguments others = .ok (.run file other) →
        Suite.fromPath read file = .ok ⟨table, [entry]⟩ →
        (reply read others).exitCode = (reply read arguments).exitCode ∧
          (other = format → format ≠ .json → ¬ command.Hindered read →
            ∃ tally, (reply read others).output =
              entry.instructionId ++ " [" ++ toString entry.column ++ "," ++
                toString entry.row ++ "] " ++ (reply read arguments).output ++
                line (tallyText tally))) := by
  rw [reply_of_command read h]
  refine ⟨command.hindered_or_grades read, command.exitCode_eq_two_iff read, ?_, ?_, ?_, ?_, ?_,
    ?_⟩
  · intro hcode
    exact ((command.exitCode_eq_two_iff read).1 hcode).reply_eq.2
  · intro verdicts hgrades
    exact hgrades.exitCode_eq
  · rintro spec rfl
    rfl
  · intro format others hothers
    rw [reply_of_command read hothers]
    exact command.exitCode_withFormat read format
  · rintro file rfl hfree
    obtain hhindered | ⟨verdicts, hgrades⟩ := (Command.run file .json).hindered_or_grades read
    · exact absurd hhindered hfree
    · cases hgrades with
      | run hload hrun => exact ⟨_, _, hload, hrun, Command.decode_run_json hload hrun⟩
  · rintro entry symbols format table others file other rfl hsymbols hothers hload
    rw [reply_of_command read hothers]
    refine ⟨Command.exitCode_run_single hsymbols hload format other, ?_⟩
    rintro rfl hformat hfree
    obtain hhindered | ⟨verdicts, hgrades⟩ := Command.hindered_or_grades read
      (.check entry.expected entry.actual symbols other)
    · exact absurd hhindered hfree
    · cases hgrades with
      | check hsymbols' hverdict =>
          cases hsymbols.symm.trans hsymbols'
          exact ⟨_, Command.output_run_single hsymbols hload hverdict hformat⟩

end

def failingCase : Case :=
  { instructionId := "a", column := 1, row := 2, expected := " < 5.2", actual := "6" }

def failing : Suite := ⟨.ofList [("X", "1")], [failingCase]⟩

def failingText : String :=
  "\x7b\"symbols\": \x7b\"X\": \"1\"\x7d, \"cases\": [[\"a\", 1, 2, \" < 5.2\", \"6\"]]\x7d"

def failingFile : FileReader := fun _ => .ok failingText.toUTF8

theorem fromPath_failingFile : Suite.fromPath failingFile "a.json" = .ok failing := by
  have hformat : SuiteFormat.ofExtension? (Path.extension "a.json") = some .json := by decide
  have hdecode : Json.decode Suite.decode failingText = .ok failing := by decide +kernel
  have hchecked : failing.checked = .ok failing := by decide
  rw [Suite.fromPath_eq_fromText hformat rfl, Suite.fromText, Suite.fromJson, hdecode]
  exact hchecked

theorem exitCode_reply_failing :
    (reply failingFile ["check", "-e", " < 5.2", "-a", "6", "-s", "$X =1"]).exitCode = 1 ∧
      (reply failingFile ["run", "a.json", "-f", "json"]).exitCode = 1 ∧
      (∃ report : Report,
        Json.decode .ok (reply failingFile ["run", "a.json", "-f", "json"]).output =
          .ok (Value.object (("success", .bool false) :: report.members)).document) ∧
      (∃ tally, (reply failingFile ["run", "a.json"]).output =
        "a [1,2] " ++
          (reply failingFile ["check", "-e", " < 5.2", "-a", "6", "-s", "$X =1"]).output ++
          line (tallyText tally)) ∧
      (reply failingFile ["check", "-e", "=~/(/", "-a", "6"]).exitCode = 2 ∧
      (reply failingFile ["check", "-e", "=~/(/", "-a", "6"]).output = "" := by
  have hsymbols : readSymbols ["$X =1"] = .ok failing.symbols := by decide
  obtain ⟨verdict, hverdict, hfail⟩ : ∃ verdict,
      evaluate " < 5.2" "6" failing.symbols.get? = .ok verdict ∧ verdict.outcome = .fail :=
    ⟨_, rfl, by decide⟩
  obtain ⟨-, htwo, -, hcode, -, -, -, hsingle⟩ := exitCode_reply failingFile
    ["check", "-e", " < 5.2", "-a", "6", "-s", "$X =1"]
    (.check " < 5.2" "6" ["$X =1"] .text) (by decide)
  have hcheck : (reply failingFile
      ["check", "-e", " < 5.2", "-a", "6", "-s", "$X =1"]).exitCode = 1 := by
    rw [hcode _ (.check hsymbols hverdict)]
    exact if_pos ⟨verdict, List.mem_singleton_self verdict, hfail⟩
  have hfree : ¬ (Command.check " < 5.2" "6" ["$X =1"] .text).Hindered failingFile := by
    rw [← htwo, hcheck]
    decide
  obtain ⟨-, htext⟩ := hsingle failingCase _ _ _ ["run", "a.json"] "a.json" .text rfl hsymbols
    (by decide) fromPath_failingFile
  obtain ⟨hrun, -⟩ := hsingle failingCase _ _ _ ["run", "a.json", "-f", "json"] "a.json" .json
    rfl hsymbols (by decide) fromPath_failingFile
  rw [hcheck] at hrun
  obtain ⟨-, hrunTwo, -, -, -, -, hjson, -⟩ := exitCode_reply failingFile
    ["run", "a.json", "-f", "json"] (.run "a.json" .json) (by decide)
  have hrunFree : ¬ (Command.run "a.json" .json).Hindered failingFile := by
    rw [← hrunTwo, hrun]
    decide
  obtain ⟨_, report, -, -, hdecode⟩ := hjson _ rfl hrunFree
  rw [hrun] at hdecode
  have hbad : HasBadPattern "=~/(/" "(" := by
    constructor
    · decide
    · cbv
  obtain ⟨-, hbadTwo, hsilent, -⟩ := exitCode_reply failingFile
    ["check", "-e", "=~/(/", "-a", "6"] (.check "=~/(/" "6" [] .text) (by decide)
  have hbadCode := hbadTwo.2 (.badSpec hbad)
  exact ⟨hcheck, hrun, ⟨report, hdecode⟩, htext rfl (by decide) hfree, hbadCode,
    hsilent hbadCode⟩

end CellGrading.CommandLine
