import CellGrading.Decimal.Basic
import CellGrading.Text.Blank
import CellGrading.Text.Utf8

/-!
# Numerals

A numeral is a decimal as it is written in a cell: an optional sign, then digits
with an optional fraction (`5`, `5.`, `5.25`) or a bare fraction (`.5`).  There
are no exponents and no digits beyond ASCII.
-/

namespace CellGrading

/-- The parts of a written decimal; `fraction` is absent without a point. -/
structure Numeral where
  negative : Bool
  whole : List Char
  fraction : Option (List Char)
deriving DecidableEq, Repr

namespace Numeral

/-! ## Reading -/

def splitSign : List Char → Bool × List Char
  | '-' :: rest => (true, rest)
  | '+' :: rest => (false, rest)
  | text => (false, text)

/-- The digits of a numeral without its sign.  Either side of the point may be
empty, but not both. -/
def readDigits? (text : List Char) : Option (List Char × Option (List Char)) :=
  let whole := text.takeWhile Char.isDigit
  match text.dropWhile Char.isDigit with
  | [] => if whole.isEmpty then none else some (whole, none)
  | '.' :: fraction =>
      if fraction.all Char.isDigit && !(whole.isEmpty && fraction.isEmpty) then
        some (whole, some fraction)
      else none
  | _ => none

def read? (text : List Char) : Option Numeral :=
  let (negative, digits) := splitSign text
  (readDigits? digits).map fun (whole, fraction) => ⟨negative, whole, fraction⟩

def isNumeral (text : List Char) : Bool := (read? text).isSome

/-! ## Value -/

def digitsValue (digits : List Char) : Nat :=
  digits.foldl (fun total c => 10 * total + (c.toNat - '0'.toNat)) 0

/-- The digits after the point that count: a point at the end stands for `.0`. -/
def fractionDigits (numeral : Numeral) : List Char :=
  match numeral.fraction with
  | none => []
  | some [] => ['0']
  | some fraction => fraction

def value (numeral : Numeral) : Decimal :=
  let magnitude : Int := digitsValue (numeral.whole ++ numeral.fractionDigits)
  ⟨if numeral.negative then -magnitude else magnitude, numeral.fractionDigits.length⟩

end Numeral

def Decimal.ofText? (text : String) : Option Decimal :=
  (Numeral.read? (Text.trimChars text.toList)).map Numeral.value

@[simp] theorem Decimal.ofText?_trim (text : String) :
    Decimal.ofText? (Text.trim text) = Decimal.ofText? text := by
  simp [Decimal.ofText?]

/-- The size of what follows the first point of a text, blanks at its ends
aside, in 32 bits; for a numeral, the number of its written fraction digits. -/
def decimalPlaces (text : String) : Nat :=
  Text.utf8Size ((Text.trimChars text.toList).dropWhile (· != '.')).tail % UInt32.size

end CellGrading
