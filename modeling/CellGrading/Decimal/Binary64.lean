/-!
# Binary floating point

Numbers that a double holds, `mantissa * 2 ^ exponent` without a sign, with the
rounding of quotients to them and the shortest decimal digits that tell them
apart.
-/

namespace CellGrading

/-- A finite double without its sign: the mantissa has 53 bits, or fewer where
the exponent is the least one. -/
structure Binary64 where
  mantissa : Nat
  exponent : Int
deriving DecidableEq, Repr

namespace Binary64

def leastExponent : Int := -1074

def divNearestEven (number unit : Nat) : Nat :=
  let quotient := number / unit
  let twice := 2 * (number % unit)
  if twice < unit then quotient
  else if unit < twice then quotient + 1
  else quotient + quotient % 2

def scaled (number unit : Nat) (exponent : Int) : Nat × Nat :=
  if 0 ≤ exponent then (number, unit * Nat.pow 2 exponent.toNat)
  else (number * Nat.pow 2 (-exponent).toNat, unit)

/-- The double nearest to a quotient; there is none if it is too large. -/
def ofQuotient? (number unit : Nat) : Option Binary64 :=
  if number = 0 then some ⟨0, leastExponent⟩
  else
    let low := max leastExponent ((number.log2 : Int) - unit.log2 - 53)
    let fraction := scaled number unit low
    let exponent := if Nat.pow 2 53 * fraction.2 ≤ fraction.1 then low + 1 else low
    let fraction := scaled number unit exponent
    let mantissa := divNearestEven fraction.1 fraction.2
    let double : Binary64 :=
      if mantissa = Nat.pow 2 53 then ⟨Nat.pow 2 52, exponent + 1⟩ else ⟨mantissa, exponent⟩
    if double.exponent ≤ 971 then some double else none

def quotient (double : Binary64) : Nat × Nat :=
  if 0 ≤ double.exponent then (double.mantissa * Nat.pow 2 double.exponent.toNat, 1)
  else (double.mantissa, Nat.pow 2 (-double.exponent).toNat)

def ofNat? (number : Nat) : Option Binary64 := ofQuotient? number 1

def mul? (first second : Binary64) : Option Binary64 :=
  ofQuotient? (first.quotient.1 * second.quotient.1) (first.quotient.2 * second.quotient.2)

def div? (first second : Binary64) : Option Binary64 :=
  ofQuotient? (first.quotient.1 * second.quotient.2) (first.quotient.2 * second.quotient.1)

/-! ## Shortest digits -/

/-- Whether a quotient rounds to the double, by its distance to the neighbours:
half a unit, and a quarter of one below a power of two. -/
def rounds (double : Binary64) (number unit : Nat) : Bool :=
  let fraction := scaled number unit (double.exponent - 2)
  let middle := 4 * double.mantissa
  let below := if double.mantissa = Nat.pow 2 52 ∧ leastExponent < double.exponent then 1 else 2
  let low := (middle - below) * fraction.2
  let high := (middle + 2) * fraction.2
  if double.mantissa % 2 = 0 then decide (low ≤ fraction.1) && decide (fraction.1 ≤ high)
  else decide (low < fraction.1) && decide (fraction.1 < high)

def decimalQuotient (digits : Nat) (power : Int) : Nat × Nat :=
  if 0 ≤ power then (digits * Nat.pow 10 power.toNat, 1) else (digits, Nat.pow 10 (-power).toNat)

def decimalExponent (number unit : Nat) : Int :=
  if unit ≤ number then ((Nat.toDigits 10 (number / unit)).length : Int) - 1
  else
    let guess := (Nat.toDigits 10 (unit / number)).length
    if unit ≤ number * Nat.pow 10 (guess - 1) then 1 - guess else -guess

/-- The point of a decimal grid that rounds to the double and is nearest to it. -/
def onGrid? (double : Binary64) (power : Int) : Option Nat :=
  let (number, unit) := double.quotient
  let (step, parts) := decimalQuotient 1 power
  let below := number * parts / (unit * step)
  let rest := number * parts % (unit * step)
  let fits (digits : Nat) :=
    let (number, unit) := decimalQuotient digits power
    double.rounds number unit
  let lower := if fits below then some below else none
  let upper := if fits (below + 1) then some (below + 1) else none
  if 2 * rest < unit * step ∨ (2 * rest = unit * step ∧ below % 2 = 0) then lower.or upper
  else upper.or lower

def shortestFrom (double : Binary64) (first : Int) : Nat → Nat → Nat × Int
  | 0, _ => (double.mantissa, 0)
  | fuel + 1, places =>
      let power := first + 1 - places
      match double.onGrid? power with
      | some digits => (digits, power)
      | none => shortestFrom double first fuel (places + 1)

def dropZeros : Nat → Nat → Nat × Nat
  | 0, digits => (digits, 0)
  | fuel + 1, digits =>
      if digits ≠ 0 ∧ digits % 10 = 0 then
        let (digits, count) := dropZeros fuel (digits / 10)
        (digits, count + 1)
      else (digits, 0)

def shortest (double : Binary64) : Nat × Int :=
  if double.mantissa = 0 then (0, 0)
  else
    let (number, unit) := double.quotient
    let (digits, power) := shortestFrom double (decimalExponent number unit) 17 1
    let (digits, zeros) := dropZeros 17 digits
    (digits, power + zeros)

/-! ## Text -/

/-- The shortest decimal as text.  From a hundred-thousandth up to ten to the 16
it is written out, with a digit after the point; outside with an exponent that
has a sign and two digits or more. -/
def toText (double : Binary64) : String :=
  let (number, power) := double.shortest
  let digits := Nat.toDigits 10 number
  let exponent : Int := power + digits.length - 1
  let chars :=
    if number = 0 then ['0', '.', '0']
    else if -5 ≤ exponent ∧ exponent < 16 then
      if 0 ≤ power then digits ++ List.replicate power.toNat '0' ++ ['.', '0']
      else if 0 ≤ exponent then
        digits.take (exponent.toNat + 1) ++ '.' :: digits.drop (exponent.toNat + 1)
      else '0' :: '.' :: List.replicate ((-exponent).toNat - 1) '0' ++ digits
    else
      let mantissa := match digits with
        | [digit] => [digit]
        | first :: rest => first :: '.' :: rest
        | [] => []
      let size := Nat.toDigits 10 exponent.natAbs
      mantissa ++ 'e' :: (if exponent < 0 then '-' else '+') ::
        List.replicate (2 - size.length) '0' ++ size
  .ofList chars

end Binary64

end CellGrading
