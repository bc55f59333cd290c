import CellGrading.Spec.Basic
import CellGrading.Symbol.Table

/-!
# Verdicts

A verdict says how one actual value fared against the spec of its cell.
-/

namespace CellGrading

inductive Outcome where
  | pass
  | fail
  | ignore
  deriving DecidableEq, Repr

namespace Outcome

def all : List Outcome := [.pass, .fail, .ignore]

def name : Outcome → String
  | .pass => "pass"
  | .fail => "fail"
  | .ignore => "ignore"

def ofMatch (found : Bool) : Outcome := if found then .pass else .fail

end Outcome

structure SymbolBinding where
  name : String
  value : String
deriving DecidableEq, Repr

structure Verdict where
  outcome : Outcome
  message : String
  kind : SpecKind
  expected : String
  actual : String
  binding : Option SymbolBinding
deriving DecidableEq, Repr

def SymbolTable.record (table : SymbolTable) (verdict : Verdict) : SymbolTable :=
  match verdict.binding with
  | some binding => table.insert binding.name binding.value
  | none => table

def SymbolTable.apply (table : SymbolTable) (verdict : Verdict) : SymbolTable × Bool :=
  (table.record verdict, verdict.binding.isSome)

end CellGrading
