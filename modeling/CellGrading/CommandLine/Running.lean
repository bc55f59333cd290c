import CellGrading.CommandLine.Arguments
import CellGrading.CommandLine.SymbolArgument
import CellGrading.Pattern.Basic
import CellGrading.Record.Encoding
import CellGrading.Suite.Loading
import CellGrading.Verdict.Markup

/-!
# Running commands

A command prints what it found and tells by its exit code how things stand: 0 if
nothing failed, 1 if something did, and 2 if nothing could be graded.  In the
last case nothing is printed but an error.
-/

namespace CellGrading.CommandLine

/-! ## Output -/

def line (text : String) : String := text ++ "\n"

def tallyText (tally : Tally) : String :=
  toString tally.pass ++ " pass, " ++ toString tally.fail ++ " fail, " ++
    toString tally.ignore ++ " ignore (" ++ toString tally.totalWord ++ " total)"

namespace OutputFormat

/-- A verdict among others.  As JSON only a whole expectation or report is written. -/
def verdictText (format : OutputFormat) (verdict : Verdict) : String :=
  match format with
  | .html => Markup.render verdict
  | .text | .json => verdict.message

def expectationText (format : OutputFormat) (expectation : Expectation) : String :=
  match format with
  | .json => line expectation.toJson.pretty
  | .text | .html => line (format.verdictText expectation.verdict)

def caseText (format : OutputFormat) (expectation : Expectation) : String :=
  line (expectation.instructionId ++ " [" ++ toString expectation.column ++ "," ++
    toString expectation.row ++ "] " ++ format.verdictText expectation.verdict)

def reportText (format : OutputFormat) (report : Report) : String :=
  match format with
  | .json => line report.summary.pretty
  | .text | .html =>
      String.join (report.expectations.map format.caseText) ++ line (tallyText report.tally)

end OutputFormat

/-! ## Commands -/

inductive Failure where
  | badSymbol (fault : SymbolFault)
  | unloadable (file : String) (error : LoadError)
  | badPattern (error : Pattern.Invalid)
  deriving DecidableEq, Repr

def Failure.message : Failure → String
  | .badSymbol fault => fault.message
  | .unloadable file error =>
      "loading suite " ++ file ++ ": " ++ error.message ++
        match error.cause? with
        | some cause => ": " ++ cause
        | none => ""
  | .badPattern error => error.message

structure Finding where
  output : String
  success : Bool
deriving DecidableEq, Repr

def check [Pattern.Engine] (expected actual : String) (symbols : SymbolTable) :
    Except Pattern.Invalid Expectation :=
  Expectation.grade "cli" 0 0 expected actual symbols.get?

def Command.perform [Pattern.Engine] (read : FileReader) : Command → Except Failure Finding
  | .check expected actual symbols format => do
      let symbols ← (readSymbols symbols).mapError .badSymbol
      let expectation ← (CommandLine.check expected actual symbols).mapError .badPattern
      return ⟨format.expectationText expectation, expectation.outcome != .fail⟩
  | .classify spec => .ok ⟨line (Spec.ofText spec).toJson.pretty, true⟩
  | .run file format => do
      let suite ← (Suite.fromPath read file).mapError (.unloadable file)
      let report ← suite.run.mapError .badPattern
      return ⟨format.reportText report, report.isSuccess⟩

/-! ## Replies -/

inductive Complaint where
  | misuse (fault : Misuse)
  | failed (failure : Failure)
  deriving DecidableEq, Repr

def Complaint.message : Complaint → String
  | .misuse fault => fault.message
  | .failed failure => failure.message

structure Reply where
  output : String
  complaint : Option Complaint := none
  exitCode : Nat
deriving DecidableEq, Repr

def versionText : String := "slimcheck 0.1.0"

def helpText : String :=
  String.join <| [
    "Grade actual values against expected-value specs",
    "",
    "Usage: slimcheck [-v]... COMMAND",
    "",
    "Commands:",
    "  check -e SPEC -a TEXT [-s NAME=VALUE]... [-f text|html|json]",
    "  classify SPEC",
    "  run FILE [-f text|html|json]"].map line

def Reply.refusal (complaint : Complaint) : Reply := ⟨"", some complaint, 2⟩

def Reply.ofFinding : Except Failure Finding → Reply
  | .ok finding => ⟨finding.output, none, if finding.success then 0 else 1⟩
  | .error failure => .refusal (.failed failure)

def reply [Pattern.Engine] (read : FileReader) (arguments : List String) : Reply :=
  match Command.ofArguments arguments with
  | .ok command => .ofFinding (command.perform read)
  | .error .help => ⟨helpText, none, 0⟩
  | .error .version => ⟨line versionText, none, 0⟩
  | .error (.misuse fault) => .refusal (.misuse fault)

end CellGrading.CommandLine
