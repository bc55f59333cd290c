import CellGrading.Expectation

/-!
# Suites

A suite lists cells to grade, in the order of the table, with the symbols that
are bound before the first of them.
-/

namespace CellGrading

structure Case where
  instructionId : String
  column : Nat := 0
  row : Nat := 0
  expected : String := ""
  actual : String := ""
deriving DecidableEq, Repr

structure Suite where
  symbols : SymbolTable := .empty
  cases : List Case
deriving DecidableEq

/-! ## Validation -/

inductive SuiteFault where
  | noCases
  /-- The instruction of a case is blank; cases are counted from zero. -/
  | blankInstruction (index : Nat)
  deriving DecidableEq, Repr

def SuiteFault.message : SuiteFault → String
  | .noCases => "suite has no cases"
  | .blankInstruction index => "case " ++ toString index ++ " has an empty instruction_id"

namespace Suite

def fault? (suite : Suite) : Option SuiteFault :=
  if suite.cases.isEmpty then some .noCases
  else (suite.cases.findIdx? fun entry => (Text.trim entry.instructionId).isEmpty).map
    .blankInstruction

def validated (suite : Suite) : Except SuiteFault Suite :=
  match suite.fault? with
  | some fault => .error fault
  | none => .ok suite

end Suite

end CellGrading
