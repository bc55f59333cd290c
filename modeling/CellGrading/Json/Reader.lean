import CellGrading.Json.Document
import CellGrading.Text.Ranges
import CellGrading.Text.Utf8

/-!
# Reading JSON

`Document.read` reads a whole text.  It always gives a document; a text that is
no JSON gives one with a fault.
-/

namespace CellGrading.Json

open Text

/-! ## Blanks and names -/

def isJsonBlank (c : Char) : Bool := c == ' ' || c == '\n' || c == '\t' || c == '\r'

def skipBlanks (text : List Char) : List Char := text.dropWhile isJsonBlank

def readName (value : Document) : List Char → List Char → Document × List Char
  | [], text => (value, text)
  | _ :: _, [] => (.cutName, [])
  | expected :: name, c :: rest =>
      if c = expected then readName value name rest else (.broken .malformed, [])

/-! ## Strings -/

def escapedChar? : Char → Option Char
  | '"' => some '"'
  | '\\' => some '\\'
  | '/' => some '/'
  | 'b' => some '\x08'
  | 'f' => some '\x0C'
  | 'n' => some '\n'
  | 'r' => some '\r'
  | 't' => some '\t'
  | _ => none

def hexUnit? (first second third fourth : Char) : Option Nat := do
  let first ← Ranges.hexDigit? first
  let second ← Ranges.hexDigit? second
  let third ← Ranges.hexDigit? third
  let fourth ← Ranges.hexDigit? fourth
  return ((first * 16 + second) * 16 + third) * 16 + fourth

namespace Quoted

def stopped (fault : Fault) : Quoted × List Char := (⟨[], some fault⟩, [])

def cons (unit : Nat) (result : Quoted × List Char) : Quoted × List Char :=
  ({ result.1 with units := unit :: result.1.units }, result.2)

def read : List Char → Quoted × List Char
  | [] => stopped .truncated
  | '"' :: rest => (⟨[], none⟩, rest)
  | '\\' :: 'u' :: rest =>
      if utf8Size rest < 4 then stopped .truncated
      else
        match rest with
        | first :: second :: third :: fourth :: rest =>
            match hexUnit? first second third fourth with
            | some unit => cons unit (read rest)
            | none => stopped .malformed
        | _ => stopped .malformed
  | '\\' :: c :: rest =>
      match escapedChar? c with
      | some escaped => cons escaped.toNat (read rest)
      | none => stopped .malformed
  | ['\\'] => stopped .truncated
  | c :: rest => if c.toNat < 0x20 then stopped .malformed else cons c.toNat (read rest)

end Quoted

/-! ## Numbers -/

def readExponent (negative : Bool) (whole fraction : List Char) :
    List Char → Document × List Char
  | [] => (.number ⟨negative, whole, fraction, none⟩, [])
  | c :: rest =>
      if c = 'e' ∨ c = 'E' then
        let (minus, rest) := match rest with
          | '+' :: rest => (false, rest)
          | '-' :: rest => (true, rest)
          | rest => (false, rest)
        match rest.takeWhile Char.isDigit, rest with
        | [], [] => (.cutNumber, [])
        | [], _ :: _ => (.broken .malformed, [])
        | digits, rest =>
            (.number ⟨negative, whole, fraction, some (minus, digits)⟩,
              rest.dropWhile Char.isDigit)
      else (.number ⟨negative, whole, fraction, none⟩, c :: rest)

def readFraction (negative : Bool) (whole : List Char) : List Char → Document × List Char
  | '.' :: rest =>
      match rest.takeWhile Char.isDigit, rest with
      | [], [] => (.cutNumber, [])
      | [], _ :: _ => (.broken .malformed, [])
      | digits, rest => readExponent negative whole digits (rest.dropWhile Char.isDigit)
  | rest => readExponent negative whole [] rest

/-- Reads a number from behind its sign; a zero in front stands alone. -/
def readNumber (negative : Bool) (text : List Char) : Document × List Char :=
  match text.takeWhile Char.isDigit, text with
  | [], [] => (.cutNumber, [])
  | [], _ :: _ => (.broken .malformed, [])
  | '0' :: _ :: _, _ => (.broken .malformed, [])
  | whole, text => readFraction negative whole (text.dropWhile Char.isDigit)

/-! ## Values -/

/-- The key that stands at the head of a text.  What else stands there is read as
a value if it is the first key. -/
def readKeyWith (readValue : List Char → Document × List Char) (first : Bool) :
    List Char → Document × List Char
  | [] => (.broken .truncated, [])
  | '"' :: rest =>
      let (text, rest) := Quoted.read rest
      (.string text, rest)
  | text => if first then readValue text else (.broken .malformed, [])

mutual

/-- Reads a value; the number bounds the calls, of which every character of a
text needs at most two. -/
def readValue : Nat → List Char → Document × List Char
  | 0, _ => (.broken .malformed, [])
  | fuel + 1, text =>
      match skipBlanks text with
      | [] => (.broken .truncated, [])
      | 'n' :: rest => readName .null ['u', 'l', 'l'] rest
      | 't' :: rest => readName (.bool true) ['r', 'u', 'e'] rest
      | 'f' :: rest => readName (.bool false) ['a', 'l', 's', 'e'] rest
      | '"' :: rest =>
          let (text, rest) := Quoted.read rest
          (.string text, rest)
      | '[' :: rest =>
          match skipBlanks rest with
          | [] => (.array [] (some .truncated), [])
          | ']' :: rest => (.array [] none, rest)
          | rest =>
              let (items, fault, rest) := readItems fuel rest
              (.array items fault, rest)
      | '{' :: rest =>
          match skipBlanks rest with
          | [] => (.object [] (some .truncated), [])
          | '}' :: rest => (.object [] none, rest)
          | rest =>
              let (members, fault, rest) := readMembers fuel true rest
              (.object members fault, rest)
      | '-' :: rest => readNumber true rest
      | c :: rest => if c.isDigit then readNumber false (c :: rest) else (.broken .malformed, [])

def readItems : Nat → List Char → List Document × Option Fault × List Char
  | 0, _ => ([], some .malformed, [])
  | fuel + 1, text =>
      let (item, rest) := readValue fuel text
      match skipBlanks rest with
      | [] => ([item], some .truncated, [])
      | ']' :: rest => ([item], none, rest)
      | ',' :: rest =>
          match skipBlanks rest with
          | ']' :: _ => ([item, .broken .malformed], none, [])
          | rest =>
              let (items, fault, rest) := readItems fuel rest
              (item :: items, fault, rest)
      | _ => ([item], some .malformed, [])

def readMembers : Nat → Bool → List Char → List (Document × Document) × Option Fault × List Char
  | 0, _, _ => ([], some .malformed, [])
  | fuel + 1, first, text =>
      let (key, rest) := readKeyWith (readValue fuel) first (skipBlanks text)
      let (value, rest) := match skipBlanks rest with
        | [] => (.broken .truncated, [])
        | ':' :: rest => readValue fuel rest
        | _ => (.broken .malformed, [])
      match skipBlanks rest with
      | [] => ([(key, value)], some .truncated, [])
      | '}' :: rest => ([(key, value)], none, rest)
      | ',' :: rest =>
          let (members, fault, rest) := readMembers fuel false rest
          ((key, value) :: members, fault, rest)
      | _ => ([(key, value)], some .malformed, [])

end

/-- The document that a text holds, and the fault of what stands behind it. -/
def Document.read (text : List Char) : Document × Option Fault :=
  let (document, rest) := readValue (2 * text.length + 2) text
  (document, if (skipBlanks rest).isEmpty then none else some .malformed)

end CellGrading.Json
