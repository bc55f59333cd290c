import CellGrading.Spec.Basic
import CellGrading.Text.Word

/-!
# Shapes of cells

Each form of spec is written in a shape of its own.  A recogniser takes a whole
text apart if it has the shape: `$name=`, `=~/pattern/`, `low < _ <= high`, or an
operator and a number.
-/

namespace CellGrading.Shape

open Text

/-- The name in `$name=`: an ASCII letter, then word characters. -/
def capture? : List Char → Option (List Char)
  | '$' :: first :: rest =>
      if first.isAlpha then
        match rest.dropWhile isWord with
        | ['='] => some (first :: rest.takeWhile isWord)
        | _ => none
      else none
  | _ => none

/-- The pattern in `=~/pattern/`, which may hold slashes and line ends. -/
def regex? : List Char → Option (List Char)
  | '=' :: '~' :: '/' :: rest =>
      if rest.getLast? = some '/' then some rest.dropLast else none
  | _ => none

/-! ## Intervals -/

/-- A bound at the head of a text; the longer operator goes first. -/
def readBound? : List Char → Option (BoundOp × List Char)
  | '<' :: '=' :: rest => some (.le, rest)
  | '<' :: rest => some (.lt, rest)
  | _ => none

structure Interval where
  low : List Char
  lowOp : BoundOp
  highOp : BoundOp
  high : List Char
  deriving DecidableEq, Repr

/-- The parts of `low op _ op high`, where blanks may stand between any two. -/
def interval? (text : List Char) : Option Interval := do
  let low := text.takeWhile fun c => c != '<' && !isBlank c
  let (lowOp, rest) ← readBound? (dropBlanks (text.dropWhile fun c => c != '<' && !isBlank c))
  match dropBlanks rest with
  | '_' :: rest =>
      let (highOp, rest) ← readBound? (dropBlanks rest)
      let high := dropBlanks rest
      if Numeral.isNumeral low && Numeral.isNumeral high then
        some ⟨low, lowOp, highOp, high⟩
      else none
  | _ => none

/-! ## Comparisons with one operand -/

inductive Comparator where
  | exact (op : RelationalOp)
  | rounded
  deriving DecidableEq, Repr

def Comparator.symbol : Comparator → String
  | .exact op => op.symbol
  | .rounded => "~="

/-- An operator at the head of a text; the longer ones go first. -/
def readComparator? : List Char → Option (Comparator × List Char)
  | '<' :: '=' :: rest => some (.exact .le, rest)
  | '>' :: '=' :: rest => some (.exact .ge, rest)
  | '~' :: '=' :: rest => some (.rounded, rest)
  | '<' :: rest => some (.exact .lt, rest)
  | '>' :: rest => some (.exact .gt, rest)
  | '=' :: rest => some (.exact .eq, rest)
  | _ => none

structure Comparison where
  negated : Bool
  comparator : Comparator
  operand : List Char
  deriving DecidableEq, Repr

def splitNegation : List Char → Bool × List Char
  | '!' :: rest => (true, rest)
  | text => (false, text)

/-- The parts of `! op number`, where the `!` may be left out and blanks may
stand between the operator and the number. -/
def comparison? (text : List Char) : Option Comparison := do
  let (negated, rest) := splitNegation text
  let (comparator, rest) ← readComparator? rest
  let operand := dropBlanks rest
  if Numeral.isNumeral operand then some ⟨negated, comparator, operand⟩ else none

end CellGrading.Shape
