import CellGrading.Suite.Basic
import CellGrading.Yaml.Node

/-!
# Suites from YAML

Reads a suite from a YAML document.  A text is any scalar, with the text that was
written for it; a count is a plain scalar.  What is left empty is an empty text,
table or list.  Members that are not known are passed over.
-/

namespace CellGrading.Yaml

/-! ## Counts -/

def digit? (base : Nat) (c : Char) : Option Nat :=
  (Text.Ranges.hexDigit? c).filter (· < base)

def numberOfDigits? (base : Nat) (digits : List Char) : Option Nat :=
  if digits.isEmpty then none
  else
    (digits.foldlM (fun total c => (digit? base c).map (base * total + ·)) 0).filter (· < UInt64.size)

/-- The count that digits write: decimal ones without a needless zero in front, or
those of another base behind its mark. -/
def countOfDigits? (digits : List Char) : Option Nat :=
  match digits with
  | '0' :: 'x' :: rest => numberOfDigits? 16 rest
  | '0' :: 'o' :: rest => numberOfDigits? 8 rest
  | '0' :: 'b' :: rest => numberOfDigits? 2 rest
  | '0' :: _ :: _ => none
  | digits => numberOfDigits? 10 digits

/-- The count that a scalar writes: a plus may come before it, and a minus before
zero. -/
def countOfText? (text : List Char) : Option Nat :=
  match text with
  | '+' :: digits => countOfDigits? digits
  | '-' :: digits => (countOfDigits? digits).filter (· = 0)
  | digits => countOfDigits? digits

/-! ## Nodes -/

namespace Document

def decodeText? (document : Document) (node : Node) : Option String :=
  match document.resolve node with
  | .scalar text _ _ => some text
  | _ => none

def integerTag : List Char := "tag:yaml.org,2002:int".toList

/-- Whether a scalar may be a number: it has the tag of one, or it is plain and its
tag, if any, is a local one. -/
def mayBeNumber (plain : Bool) (tag : List Char) : Bool :=
  tag == integerTag || (plain && (tag.isEmpty || tag.head? == some '!'))

def decodeCount? (document : Document) (node : Node) : Option Nat :=
  match document.resolve node with
  | .scalar text plain tag => if mayBeNumber plain tag then countOfText? text.toList else none
  | _ => none

def decodeItems? (document : Document) (node : Node) : Option (List Node) :=
  match document.resolve node with
  | .sequence items => some items
  | .scalar "" true _ => some []
  | _ => none

def decodeEntries? (document : Document) (node : Node) : Option (List (Node × Node)) :=
  match document.resolve node with
  | .mapping entries => some entries
  | .scalar "" true _ => some []
  | _ => none

/-- A table of symbols; of a name that occurs more than once, the last value counts. -/
def decodeTable? (document : Document) (node : Node) : Option SymbolTable := do
  let entries ← document.decodeEntries? node
  let bindings ← entries.mapM fun (name, value) => do
    return (← document.decodeText? name, ← document.decodeText? value)
  return .ofList bindings

def decodeMembers? (document : Document) (node : Node) : Option (List (String × Node)) := do
  let entries ← document.decodeEntries? node
  entries.mapM fun (name, value) => do return (← document.decodeText? name, value)

def distinct (known : List String) (members : List (String × Node)) : Bool :=
  known.all fun field => (members.filter fun member => member.1 == field).length ≤ 1

def decodeMember? {α : Type} (decode : Node → Option α) (default : Option α) (field : String)
    (members : List (String × Node)) : Option α :=
  match members.lookup field with
  | some value => decode value
  | none => default

def decodeCase? (document : Document) (node : Node) : Option Case := do
  let members ← document.decodeMembers? node
  if distinct ["instruction_id", "column", "row", "expected", "actual"] members then
    return {
      instructionId := ← decodeMember? document.decodeText? none "instruction_id" members
      column := ← decodeMember? document.decodeCount? (some 0) "column" members
      row := ← decodeMember? document.decodeCount? (some 0) "row" members
      expected := ← decodeMember? document.decodeText? (some "") "expected" members
      actual := ← decodeMember? document.decodeText? (some "") "actual" members }
  else none

def decodeCases? (document : Document) (node : Node) : Option (List Case) := do
  let items ← document.decodeItems? node
  items.mapM document.decodeCase?

def decodeSuite? (document : Document) : Option Suite := do
  let members ← document.decodeMembers? document.root
  if distinct ["symbols", "cases"] members then
    return {
      symbols := ← decodeMember? document.decodeTable? (some .empty) "symbols" members
      cases := ← decodeMember? document.decodeCases? none "cases" members }
  else none

end Document

end CellGrading.Yaml

namespace CellGrading

def Suite.ofYaml? (text : String) : Option Suite := do
  let document ← Yaml.Document.read? text.toList
  document.decodeSuite?

end CellGrading
