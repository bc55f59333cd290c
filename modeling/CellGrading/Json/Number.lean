import CellGrading.Decimal.Binary64
import CellGrading.Decimal.Numeral
import CellGrading.Json.Document

/-!
# Numbers in JSON

A written number is a whole number if it has neither fraction nor exponent and
fits in 64 bits; every other number is a double.  A double is found from the
first digits that fit in 64 bits and a power of ten, with one rounding for each
of the two and one for their product.
-/

namespace CellGrading.Json

inductive NumberValue where
  | unsigned (value : Nat)
  | negative (value : Nat)
  | double (negative : Bool) (value : Binary64)
  deriving DecidableEq, Repr

namespace Number

/-- The number that the first digits write, as long as they stay below two to
the 64; and the digits behind them. -/
def leading (total : Nat) : List Char → Nat × List Char
  | [] => (total, [])
  | c :: rest =>
      let next := 10 * total + (c.toNat - '0'.toNat)
      if next < UInt64.size then leading next rest else (total, c :: rest)

def powerOfTen? (size : Nat) : Option Binary64 := Binary64.ofNat? (Nat.pow 10 size)

/-- A double times a power of ten.  Powers below `10 ^ -308` are divided out in
steps. -/
def scaleDouble? (value : Binary64) (exponent : Int) : Option Binary64 :=
  let divide (size : Nat) (value : Binary64) := (powerOfTen? size).bind value.div?
  if 0 ≤ exponent then
    if value.mantissa = 0 then some value
    else if 308 < exponent then none
    else (powerOfTen? exponent.toNat).bind value.mul?
  else
    let size := (-exponent).toNat
    let steps := (size - 1) / 308
    if 3 < steps then some ⟨0, Binary64.leastExponent⟩
    else (Nat.repeat (·.bind (divide 308)) steps (some value)).bind (divide (size - 308 * steps))

def writtenExponent (number : Number) : Int :=
  match number.exponent with
  | none => 0
  | some (minus, digits) =>
      let size : Int := Numeral.digitsValue digits
      if minus then -size else size

def double? (number : Number) : Option Binary64 := do
  let (whole, restOfWhole) := leading 0 number.whole
  let (digits, restOfFraction) := leading whole number.fraction
  let read := number.fraction.length - restOfFraction.length
  let exponent := number.writtenExponent + restOfWhole.length - read
  scaleDouble? (← Binary64.ofNat? digits) exponent

/-- The value of a number; there is none if it is too large for a double. -/
def value? (number : Number) : Option NumberValue :=
  let whole := Numeral.digitsValue number.whole
  let double := number.double?.map (.double number.negative ·)
  if !number.fraction.isEmpty || number.exponent.isSome then double
  else if number.negative then
    if 0 < whole ∧ whole ≤ Nat.pow 2 63 then some (.negative whole) else double
  else if whole < UInt64.size then some (.unsigned whole) else double

end Number

end CellGrading.Json
