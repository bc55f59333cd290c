/-!
# Patterns as written

The tree of a pattern keeps what its author wrote: groups, flags and classes
stand in it as such, and only their meaning is left open.
-/

namespace CellGrading.Pattern

/-! ## Parts -/

inductive Flag where
  /-- `i`: letters stand for both cases. -/
  | ignoreCase
  /-- `m`: `^` and `$` hold at each line. -/
  | multiLine
  /-- `s`: a dot stands for a line end too. -/
  | dotAll
  /-- `U`: repetitions prefer few. -/
  | swapGreed
  /-- `u`: classes and boundaries know more than ASCII. -/
  | unicode
  /-- `R`: a line may end in a carriage return. -/
  | carriageReturn
  /-- `x`: blanks and comments are passed over. -/
  | verbose
  deriving DecidableEq, Repr

abbrev FlagChange := List (Flag × Bool)

def FlagChange.setting? (change : FlagChange) (flag : Flag) : Option Bool :=
  change.lookup flag

inductive Assertion where
  | lineStart
  | lineEnd
  | textStart
  | textEnd
  | wordBoundary
  | notWordBoundary
  | wordStart
  | wordEnd
  | wordStartHalf
  | wordEndHalf
  deriving DecidableEq, Repr

/-- A character as written; `byte` tells that it was given by two hexadecimal digits. -/
structure Letter where
  char : Char
  byte : Bool := false
deriving DecidableEq, Repr

inductive ShortClass where
  | digit
  | space
  | word
  deriving DecidableEq, Repr

inductive AsciiClass where
  | alnum
  | alpha
  | ascii
  | blank
  | cntrl
  | digit
  | graph
  | lower
  | print
  | punct
  | space
  | upper
  | word
  | xdigit
  deriving DecidableEq, Repr

inductive Property where
  | named (name : String)
  | valued (name value : String)
  deriving DecidableEq, Repr

inductive SetOp where
  | intersection
  | difference
  | symmetricDifference
  deriving DecidableEq, Repr

/-! ## Trees -/

inductive ClassItem where
  | nothing
  | letter (letter : Letter)
  | range (low high : Letter)
  | ascii (name : AsciiClass) (negated : Bool)
  | short (name : ShortClass) (negated : Bool)
  | property (property : Property) (negated : Bool)
  | bracket (negated : Bool) (item : ClassItem)
  | union (items : List ClassItem)
  | operation (op : SetOp) (left right : ClassItem)

inductive Tree where
  | empty
  | flags (change : FlagChange)
  | letter (letter : Letter)
  | dot
  | assertion (assertion : Assertion)
  | short (name : ShortClass) (negated : Bool)
  | property (property : Property) (negated : Bool)
  | bracket (negated : Bool) (item : ClassItem)
  | repetition (body : Tree) (least : Nat) (most : Option Nat)
  | capture (body : Tree)
  | group (change : FlagChange) (body : Tree)
  | concat (parts : List Tree)
  | alternation (branches : List Tree)

/-! ## Nesting -/

mutual

def ClassItem.depth : ClassItem → Nat
  | .bracket _ item => item.depth + 1
  | .union items => ClassItem.maxDepth items + 1
  | .operation _ left right => max left.depth right.depth + 1
  | _ => 0

def ClassItem.maxDepth : List ClassItem → Nat
  | [] => 0
  | item :: rest => max item.depth (ClassItem.maxDepth rest)

end

mutual

def Tree.depth : Tree → Nat
  | .bracket _ item => item.depth + 1
  | .repetition body _ _ => body.depth + 1
  | .capture body => body.depth + 1
  | .group _ body => body.depth + 1
  | .concat parts => Tree.maxDepth parts + 1
  | .alternation branches => Tree.maxDepth branches + 1
  | _ => 0

def Tree.maxDepth : List Tree → Nat
  | [] => 0
  | tree :: rest => max tree.depth (Tree.maxDepth rest)

end

namespace Tree

def ofParts : List Tree → Tree
  | [] => .empty
  | [part] => part
  | parts => .concat parts

def ofBranches : List Tree → Tree
  | [] => .empty
  | [branch] => branch
  | branches => .alternation branches

end Tree

end CellGrading.Pattern
