/-!
# JSON documents as read

A document is read from a text once, and then taken apart by whoever knows what
it should be.  A text that is no JSON is kept as far as it could be read, with
the fault in the place where it lies; so a reader that goes through a document
in the order of the text meets its own objections and the faults in order.
-/

namespace CellGrading.Json

inductive Fault where
  | malformed
  | truncated
  deriving DecidableEq, Repr

/-- A number as written.  Without a point there are no fraction digits, and with
one there is at least one. -/
structure Number where
  negative : Bool
  whole : List Char
  fraction : List Char
  /-- The sign and the digits behind `e`; the flag tells a minus. -/
  exponent : Option (Bool × List Char)
deriving DecidableEq, Repr

/-- A string as written: the code points of its characters, an escape of the
form `\uXXXX` counting as one even where it is half of a surrogate pair. -/
structure Quoted where
  units : List Nat
  fault : Option Fault
deriving DecidableEq, Repr

inductive Document where
  | null
  | bool (value : Bool)
  | number (number : Number)
  /-- A name such as `null` that the end of the text cuts off. -/
  | cutName
  /-- A number that the end of the text cuts off. -/
  | cutNumber
  | string (text : Quoted)
  | array (items : List Document) (fault : Option Fault)
  /-- Members in order.  A key is a string, or what stands in its place. -/
  | object (members : List (Document × Document)) (fault : Option Fault)
  | broken (fault : Fault)

/-! ## Strings -/

def isHighSurrogate (unit : Nat) : Bool := decide (0xD800 ≤ unit) && decide (unit < 0xDC00)

def isLowSurrogate (unit : Nat) : Bool := decide (0xDC00 ≤ unit) && decide (unit < 0xE000)

def pairCode (high low : Nat) : Nat := 0x10000 + (high - 0xD800) * 0x400 + (low - 0xDC00)

def decodeUnits (fault : Option Fault) : List Nat → Except Fault (List Char)
  | [] =>
      match fault with
      | some fault => .error fault
      | none => .ok []
  | unit :: rest =>
      if isHighSurrogate unit then
        match rest with
        | [] => .error (fault.getD .malformed)
        | low :: rest =>
            if isLowSurrogate low then do
              let text ← decodeUnits fault rest
              return Char.ofNat (pairCode unit low) :: text
            else .error .malformed
      else if isLowSurrogate unit then .error .malformed
      else do
        let text ← decodeUnits fault rest
        return Char.ofNat unit :: text

def Quoted.decode (text : Quoted) : Except Fault String := do
  let chars ← decodeUnits text.fault text.units
  return .ofList chars

/-! ## Passing over a document -/

mutual

/-- The first fault of a document that nobody takes apart.  Where strings are
not decoded, a surrogate may stand alone in them. -/
def Document.fault? : Document → Option Fault
  | .null => none
  | .bool _ => none
  | .number _ => none
  | .cutName => some .truncated
  | .cutNumber => some .malformed
  | .string text => text.fault
  | .array items fault => (Document.faultOfItems? items).or fault
  | .object members fault => (Document.faultOfMembers? members).or fault
  | .broken fault => some fault

def Document.faultOfItems? : List Document → Option Fault
  | [] => none
  | item :: rest => item.fault?.or (Document.faultOfItems? rest)

def Document.faultOfMembers? : List (Document × Document) → Option Fault
  | [] => none
  | (key, value) :: rest =>
      (match key with
        | .string text => text.fault
        | .broken fault => some fault
        | _ => some .malformed).or
        (value.fault?.or (Document.faultOfMembers? rest))

end

end CellGrading.Json
