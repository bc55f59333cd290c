import CellGrading.Symbol.Table
import CellGrading.Text.Blank
import CellGrading.Text.Quoted

/-!
# Symbols as arguments

A symbol is bound on the command line by an argument `NAME=VALUE`.  Blanks around
the name and dollar signs in front of it do not belong to the name; the value is
all that follows the first equals sign.
-/

namespace CellGrading.CommandLine

inductive SymbolFault where
  | noValue (argument : String)
  | noName (argument : String)
  deriving DecidableEq, Repr

def SymbolFault.message : SymbolFault → String
  | .noValue argument => "symbol must be NAME=VALUE, got " ++ Text.quote argument
  | .noName argument => "symbol name is empty in " ++ Text.quote argument

def splitAtEquals? (argument : List Char) : Option (List Char × List Char) :=
  match argument.dropWhile (· ≠ '=') with
  | [] => none
  | _ :: value => some (argument.takeWhile (· ≠ '='), value)

/-- A name without what may be written around it.  Blanks behind a dollar sign are missed. -/
def bareName (name : List Char) : List Char := (Text.trimChars name).dropWhile (· = '$')

def readSymbol (argument : String) : Except SymbolFault (String × String) :=
  match splitAtEquals? argument.toList with
  | none => .error (.noValue argument)
  | some (name, value) =>
      if (bareName name).isEmpty then .error (.noName argument)
      else .ok (.ofList (bareName name), .ofList value)

/-- The symbols that arguments bind; of one that is bound more than once, the last
value counts. -/
def readSymbols (arguments : List String) : Except SymbolFault SymbolTable := do
  return .ofList (← arguments.mapM readSymbol)

end CellGrading.CommandLine
