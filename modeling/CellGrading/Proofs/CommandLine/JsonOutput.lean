import CellGrading.Pattern.Basic
import CellGrading.Proofs.CommandLine.Reply
import CellGrading.Proofs.Record.Range
import CellGrading.Proofs.Record.RoundTrip

/-!
# JSON output is read back

The JSON of a verdict, an expectation, a tally, a symbol table or a report holds all
that is in it: it is decoded to the same again, written in either way.  So is what a
command prints as JSON.
-/

namespace CellGrading

open Json (Document Value Decoded)

def ReadsBack {α : Type} (decode : Document → Decoded α) (json : Value) (value : α) : Prop :=
  Json.decode decode json.compact = .ok value ∧ Json.decode decode json.pretty = .ok value

theorem readsBack_of_decode {α : Type} {decode : Document → Decoded α} {json : Value} {value : α}
    (h : decode json.document = .ok value) : ReadsBack decode json value :=
  ⟨(Json.decode_compact decode json).trans h, (Json.decode_pretty decode json).trans h⟩

/-! ## Reports of loaded suites -/

theorem gradeCases_fits [Pattern.Engine] {symbols : SymbolTable} {tally : Tally} {cases : List Case}
    {report : Report} (h : gradeCases symbols tally cases = .ok report)
    (hcases : ∀ entry ∈ cases, entry.Fits) :
    ∀ expectation ∈ report.expectations, expectation.Fits := by
  induction cases generalizing symbols tally report with
  | nil =>
      cases h
      simp
  | cons entry rest ih =>
      obtain ⟨first, tail, hfirst, htail, rfl⟩ := gradeCases_cons_eq_ok_iff.1 h
      obtain ⟨verdict, -, rfl⟩ := Case.grade_eq_ok_iff.1 hfirst
      intro expectation hexpectation
      rcases List.mem_cons.1 hexpectation with rfl | hexpectation
      · exact ⟨(hcases entry (by simp)).column, (hcases entry (by simp)).row⟩
      · exact ih htail (fun other hother => hcases other (List.mem_cons_of_mem _ hother))
          expectation hexpectation

theorem Suite.fits_run [Pattern.Engine] {suite : Suite} {report : Report}
    (h : suite.run = .ok report) (hsuite : suite.Fits)
    (hcases : suite.cases.length < UInt64.size) : report.Fits := by
  have htotal : report.tally.pass + report.tally.fail + report.tally.ignore =
      0 + suite.cases.length := gradeCases_total h
  exact ⟨gradeCases_fits h hsuite, by omega, by omega, by omega⟩

/-! ## What commands print -/

namespace CommandLine

theorem decode_output_run [Pattern.Engine] {read : FileReader} {arguments : List String}
    {file : String} {suite : Suite} {report : Report}
    (harguments : Command.ofArguments arguments = .ok (.run file .json))
    (hload : Suite.fromPath read file = .ok suite) (hrun : suite.run = .ok report)
    (hcases : suite.cases.length < UInt64.size) :
    Json.decode Report.decode (reply read arguments).output = .ok report := by
  have hfits := Suite.fits_run hrun (Suite.fits_of_fromPath hload) hcases
  rw [reply_of_command read harguments, Command.perform_run .json hload hrun, Reply.ofFinding,
    OutputFormat.reportText, line, Json.decode_pretty_line]
  exact Report.decode_summary hfits

theorem fits_of_check [Pattern.Engine] {expected actual : String} {symbols : SymbolTable}
    {expectation : Expectation} (h : check expected actual symbols = .ok expectation) :
    expectation.Fits := by
  obtain ⟨verdict, -, ⟨⟩⟩ := except_bind_eq_ok_iff.1 h
  have hzero : 0 < UInt64.size := by decide
  exact ⟨hzero, hzero⟩

theorem decode_output_check [Pattern.Engine] {read : FileReader} {arguments symbols : List String}
    {expected actual : String} {table : SymbolTable} {expectation : Expectation}
    (harguments : Command.ofArguments arguments = .ok (.check expected actual symbols .json))
    (hsymbols : readSymbols symbols = .ok table)
    (hcheck : check expected actual table = .ok expectation) :
    Json.decode Expectation.decode (reply read arguments).output = .ok expectation := by
  rw [reply_of_command read harguments, Command.perform_check .json hsymbols hcheck,
    Reply.ofFinding, OutputFormat.expectationText, line, Json.decode_pretty_line]
  exact Expectation.decode_toJson (fits_of_check hcheck)

end CommandLine

open CommandLine

/-- Nothing is lost in JSON.  Counts and positions are numbers of 64 bits, as is the
length of a list in memory, so the tally of a run fits; the positions in a suite
that was loaded fit by themselves. -/
theorem json_reads_back [Pattern.Engine] :
    (∀ verdict : Verdict, ReadsBack Verdict.decode verdict.toJson verdict) ∧
      (∀ expectation : Expectation, expectation.Fits →
        ReadsBack Expectation.decode expectation.toJson expectation) ∧
      (∀ tally : Tally, tally.Fits → ReadsBack Tally.decode tally.toJson tally) ∧
      (∀ table : SymbolTable, ReadsBack SymbolTable.decode table.toJson table) ∧
      (∀ report : Report, report.Fits → ReadsBack Report.decode report.toJson report) ∧
      (∀ (read : FileReader) (arguments : List String) (file : String) (suite : Suite)
        (report : Report), Command.ofArguments arguments = .ok (.run file .json) →
        Suite.fromPath read file = .ok suite → suite.cases.length < UInt64.size →
        suite.run = .ok report →
        Json.decode Report.decode (reply read arguments).output = .ok report) ∧
      (∀ (read : FileReader) (arguments symbols : List String) (expected actual : String)
        (table : SymbolTable) (expectation : Expectation),
        Command.ofArguments arguments = .ok (.check expected actual symbols .json) →
        readSymbols symbols = .ok table → check expected actual table = .ok expectation →
        Json.decode Expectation.decode (reply read arguments).output = .ok expectation) := by
  refine ⟨?_, ?_, ?_, ?_, ?_, ?_, ?_⟩
  · exact fun verdict => readsBack_of_decode verdict.decode_toJson
  · exact fun expectation h => readsBack_of_decode (Expectation.decode_toJson h)
  · exact fun tally h => readsBack_of_decode (Tally.decode_toJson h)
  · exact fun table => readsBack_of_decode table.decode_toJson
  · exact fun report h => readsBack_of_decode (Report.decode_toJson h)
  · intro read arguments file suite report harguments hload hcases hrun
    exact decode_output_run harguments hload hrun hcases
  · intro read arguments symbols expected actual table expectation harguments hsymbols hcheck
    exact decode_output_check harguments hsymbols hcheck

def Suite.escaping : Suite where
  cases := [{
    instructionId := "\"\x01\\"
    column := 18446744073709551615
    row := 18446744073709551615
    expected := "$A="
    actual := "é\n\x7b" }]

def Suite.escapingText : String :=
  "\x7b\"cases\": [[\"\\\"\\u0001\\\\\", 18446744073709551615, 18446744073709551615, \"$A=\", \"é\\n\x7b\"]]\x7d"

theorem json_reads_back_escaping :
    ∃ report expectation, Suite.escaping.run = .ok report ∧
      check "'" "\x7f'" (.ofList [("A", "\"")]) = .ok expectation ∧
      ReadsBack Report.decode report.toJson report ∧
      ReadsBack Tally.decode report.tally.toJson report.tally ∧
      ReadsBack Expectation.decode expectation.toJson expectation ∧
      Json.decode Report.decode
        (reply (fun _ => .ok Suite.escapingText.toUTF8) ["run", "a.json", "-f", "json"]).output =
        .ok report ∧
      Json.decode Expectation.decode
        (reply (fun _ => .error .notFound)
          ["check", "-e", "'", "-a", "\x7f'", "-s", "A=\"", "-f", "json"]).output =
        .ok expectation := by
  obtain ⟨-, hexpectation, htally, -, hreport, hrun, hcheck⟩ := json_reads_back
  have hread : FileReader.text (fun _ => .ok Suite.escapingText.toUTF8) "a.json" =
      .ok Suite.escapingText := FileReader.text_of_toUTF8 rfl
  have hdecode : Json.decode Suite.decode Suite.escapingText = .ok Suite.escaping := by
    decide +kernel
  have hchecked : Suite.escaping.checked = .ok Suite.escaping := by decide
  have hload : Suite.fromPath (fun _ => .ok Suite.escapingText.toUTF8) "a.json" =
      .ok Suite.escaping := by
    have hformat : SuiteFormat.ofExtension? (Path.extension "a.json") = some .json := by decide
    simp only [Suite.fromPath, hformat, Suite.fromFile, hread, Except.mapError, bind,
      Except.bind, Suite.fromText, Suite.fromJson, hdecode, hchecked]
  obtain ⟨report, hgraded⟩ : ∃ report, Suite.escaping.run = .ok report := ⟨_, rfl⟩
  obtain ⟨expectation, hfound⟩ :
      ∃ expectation, check "'" "\x7f'" (.ofList [("A", "\"")]) = .ok expectation := ⟨_, rfl⟩
  have hfits : report.Fits :=
    Suite.fits_run hgraded (Suite.fits_of_fromPath hload) (by decide)
  refine ⟨report, expectation, hgraded, hfound, hreport report hfits,
    htally report.tally hfits.tally, hexpectation expectation (fits_of_check hfound), ?_, ?_⟩
  · exact hrun _ _ "a.json" Suite.escaping report (by decide) hload (by decide) hgraded
  · exact hcheck _ _ ["A=\""] "'" "\x7f'" (.ofList [("A", "\"")]) expectation (by decide)
      (by decide) hfound

end CellGrading
