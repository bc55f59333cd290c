import CellGrading.Suite.Basic

/-!
# Runs of suites

The cases of a suite are graded in order.  A value that a case captures is
bound for the cases behind it; the suite itself stays as it is.
-/

namespace CellGrading

structure Tally where
  pass : Nat := 0
  fail : Nat := 0
  ignore : Nat := 0
deriving DecidableEq, Repr

namespace Tally

def count (tally : Tally) : Outcome → Nat
  | .pass => tally.pass
  | .fail => tally.fail
  | .ignore => tally.ignore

def record (tally : Tally) : Outcome → Tally
  | .pass => { tally with pass := tally.pass + 1 }
  | .fail => { tally with fail := tally.fail + 1 }
  | .ignore => { tally with ignore := tally.ignore + 1 }

/-- Counters are words of 64 bits: one that is full counts no further. -/
def recordWord? (tally : Tally) (outcome : Outcome) : Option Tally :=
  if tally.count outcome + 1 < UInt64.size then some (tally.record outcome) else none

def total (tally : Tally) : Nat := tally.pass + tally.fail + tally.ignore

/-- The total as a word of 64 bits, which starts over when it is full. -/
def totalWord (tally : Tally) : UInt64 :=
  .ofNat tally.pass + .ofNat tally.fail + .ofNat tally.ignore

theorem total_record (tally : Tally) (outcome : Outcome) :
    (tally.record outcome).total = tally.total + 1 := by
  cases outcome <;> simp only [record, total] <;> omega

end Tally

structure Report where
  expectations : List Expectation
  tally : Tally
  symbols : SymbolTable
deriving DecidableEq

def Report.isSuccess (report : Report) : Bool := report.tally.fail == 0

def Case.grade [Pattern.Engine] (entry : Case) (symbols : SymbolTable) :
    Except Pattern.Invalid Expectation :=
  Expectation.grade entry.instructionId entry.column entry.row entry.expected entry.actual
    symbols.get?

/-- Grades cases in order, from the symbols and counts so far. -/
def gradeCases [Pattern.Engine] (symbols : SymbolTable) (tally : Tally) :
    List Case → Except Pattern.Invalid Report
  | [] => .ok ⟨[], tally, symbols⟩
  | entry :: rest => do
      let expectation ← entry.grade symbols
      let report ← gradeCases (symbols.record expectation.verdict)
        (tally.record expectation.outcome) rest
      return { report with expectations := expectation :: report.expectations }

def Suite.run [Pattern.Engine] (suite : Suite) : Except Pattern.Invalid Report :=
  gradeCases suite.symbols {} suite.cases

end CellGrading
