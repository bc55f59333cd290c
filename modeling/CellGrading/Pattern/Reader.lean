import CellGrading.Pattern.Tree
import CellGrading.Text.Blank
import CellGrading.Unicode.GeneralCategory
import CellGrading.Unicode.BinaryProperty

/-!
# Reading patterns

`Tree.read?` reads the text of a pattern, or finds that it is not one.  Groups
and brackets nest; while one is open, what surrounds it waits on a stack.  With
the flag `x`, blanks and comments may stand between the signs of a pattern.
-/

namespace CellGrading.Pattern

open Text

/-! ## Blanks and comments -/

/-- What follows blanks and comments; `comment` tells that one is open. -/
def skipComments (comment : Bool) : List Char → List Char
  | [] => []
  | c :: rest =>
      if comment then skipComments (c != '\n') rest
      else if isBlank c then skipComments false rest
      else if c = '#' then skipComments true rest
      else c :: rest

/-- What is to be read next, which with the flag `x` is past blanks and comments. -/
def skip (verbose : Bool) (text : List Char) : List Char :=
  if verbose then skipComments false text else text

/-- The character behind a hyphen.  With the flag `x`, it is looked for past
blanks and one `#`. -/
def peekBehind? (verbose : Bool) (text : List Char) : Option Char :=
  if verbose then
    match dropBlanks text with
    | '#' :: rest => (dropBlanks rest).head?
    | rest => rest.head?
  else text.head?

/-! ## Numbers -/

def readDigits (verbose : Bool) : Nat → List Char → List Char × List Char
  | 0, text => ([], text)
  | _, [] => ([], [])
  | fuel + 1, c :: rest =>
      if c.isDigit then
        let (digits, rest) := readDigits verbose fuel (skip verbose rest)
        (c :: digits, rest)
      else ([], c :: rest)

def countOfDigits? (digits : List Char) : Option Nat :=
  let value := digits.foldl (fun total c => 10 * total + (c.toNat - 48)) 0
  if digits.isEmpty then none else if value < UInt32.size then some value else none

/-- A count of a repetition with the blanks around it; there is none without digits. -/
def readCount? (verbose : Bool) (text : List Char) : Option Nat × List Char :=
  let text := dropBlanks text
  let (digits, rest) := readDigits verbose text.length text
  (countOfDigits? digits, dropBlanks rest)

def readCounts? (verbose : Bool) (text : List Char) : Option ((Nat × Option Nat) × List Char) := do
  let (first, rest) := readCount? verbose (skip verbose text)
  let least ← first
  match rest with
  | '}' :: rest => return ((least, some least), rest)
  | ',' :: rest =>
      match skip verbose rest with
      | '}' :: rest => return ((least, none), rest)
      | rest =>
          let (second, rest) := readCount? verbose rest
          let most ← second
          match rest with
          | '}' :: rest => if least ≤ most then return ((least, some most), rest) else none
          | _ => none
  | _ => none

/-! ## Escapes -/

inductive Sign where
  | letter (letter : Letter)
  | assertion (assertion : Assertion)
  | short (name : ShortClass) (negated : Bool)
  | property (property : Property) (negated : Bool)

def charOfCode? (code : Nat) : Option Char :=
  if h : code.isValidChar then some (Char.ofNatAux code h) else none

def readFixedHex? (verbose : Bool) : Nat → Nat → List Char → Option (Nat × List Char)
  | 0, code, text => some (code, text)
  | digits + 1, code, c :: rest => do
      let digit ← Ranges.hexDigit? c
      readFixedHex? verbose digits (16 * code + digit) (skip verbose rest)
  | _ + 1, _, [] => none

def readBraced? (verbose : Bool) : Nat → List Char → Option (List Char × List Char)
  | fuel + 1, text =>
      match skip verbose text with
      | [] => none
      | '}' :: rest => some ([], rest)
      | c :: rest => do
          let (inner, rest) ← readBraced? verbose fuel rest
          return (c :: inner, rest)
  | 0, _ => none

def codeOfDigits? (digits : List Char) : Option Nat :=
  if digits.isEmpty then none
  else digits.foldlM (fun total c => (Ranges.hexDigit? c).map (16 * total + ·)) 0

def readHex? (verbose : Bool) (count : Nat) (text : List Char) : Option (Letter × List Char) :=
  match skip verbose text with
  | '{' :: rest => do
      let (digits, rest) ← readBraced? verbose (rest.length + 1) rest
      let c ← charOfCode? (← codeOfDigits? digits)
      return (⟨c, false⟩, skip verbose rest)
  | rest => do
      let (code, rest) ← readFixedHex? verbose count 0 rest
      let c ← charOfCode? code
      return (⟨c, count == 2⟩, rest)

def splitAt? (mark : List Char) : List Char → Option (List Char × List Char)
  | [] => none
  | c :: rest =>
      if mark.isPrefixOf (c :: rest) then some ([], (c :: rest).drop mark.length)
      else (splitAt? mark rest).map fun (before, behind) => (c :: before, behind)

/-- A property from the text in braces: `name=value`, `name:value`, `name!=value`
or a name alone.  The flag tells whether it is negated. -/
def propertyOfText (text : List Char) : Property × Bool :=
  match splitAt? ['!', '='] text, splitAt? [':'] text, splitAt? ['='] text with
  | some (name, value), _, _ => (.valued (.ofList name) (.ofList value), true)
  | none, some (name, value), _ => (.valued (.ofList name) (.ofList value), false)
  | none, none, some (name, value) => (.valued (.ofList name) (.ofList value), false)
  | none, none, none => (.named (.ofList text), false)

def readProperty? (verbose negated : Bool) (text : List Char) : Option (Sign × List Char) :=
  match skip verbose text with
  | [] => none
  | '\\' :: _ => none
  | '{' :: rest => do
      let (inner, rest) ← readBraced? verbose (rest.length + 1) rest
      let (property, unequal) := propertyOfText inner
      return (.property property (negated != unequal), rest)
  | c :: rest => some (.property (.named (.singleton c)) negated, skip verbose rest)

def isBoundaryChar (c : Char) : Bool := c.isAlpha || c == '-'

/-- The letters and hyphens at the head of a text, which with the flag `x` may
stand apart. -/
def readBoundaryName (verbose : Bool) : Nat → List Char → List Char × List Char
  | 0, text => ([], text)
  | _, [] => ([], [])
  | fuel + 1, c :: rest =>
      if isBoundaryChar c then
        let (name, rest) := readBoundaryName verbose fuel (skip verbose rest)
        (c :: name, rest)
      else ([], c :: rest)

def boundaryOfName? (name : List Char) : Option Assertion :=
  if name = "start".toList then some .wordStart
  else if name = "end".toList then some .wordEnd
  else if name = "start-half".toList then some .wordStartHalf
  else if name = "end-half".toList then some .wordEndHalf
  else none

/-- The boundary that `\b` begins.  A brace with a letter or hyphen behind it
gives its name; any other brace is left for a repetition. -/
def readBoundary? (verbose : Bool) (text : List Char) : Option (Sign × List Char) :=
  match text with
  | '{' :: rest =>
      match skip verbose rest with
      | [] => none
      | c :: inner =>
          if isBoundaryChar c then
            let (name, rest) := readBoundaryName verbose (inner.length + 1) (c :: inner)
            match rest with
            | '}' :: rest => (boundaryOfName? name).map fun boundary => (.assertion boundary, rest)
            | _ => none
          else some (.assertion .wordBoundary, text)
  | _ => some (.assertion .wordBoundary, text)

/-- The ASCII characters that a backslash makes stand for themselves: all but
letters, digits and the angle brackets. -/
def isEscapable (c : Char) : Bool :=
  decide (c.toNat < 0x80) && !c.isAlphanum && c != '<' && c != '>'

def readEscape? (verbose : Bool) : List Char → Option (Sign × List Char)
  | [] => none
  | 'x' :: rest => (readHex? verbose 2 rest).map fun (letter, rest) => (.letter letter, rest)
  | 'u' :: rest => (readHex? verbose 4 rest).map fun (letter, rest) => (.letter letter, rest)
  | 'U' :: rest => (readHex? verbose 8 rest).map fun (letter, rest) => (.letter letter, rest)
  | 'p' :: rest => readProperty? verbose false rest
  | 'P' :: rest => readProperty? verbose true rest
  | 'd' :: rest => some (.short .digit false, rest)
  | 'D' :: rest => some (.short .digit true, rest)
  | 's' :: rest => some (.short .space false, rest)
  | 'S' :: rest => some (.short .space true, rest)
  | 'w' :: rest => some (.short .word false, rest)
  | 'W' :: rest => some (.short .word true, rest)
  | 'a' :: rest => some (.letter ⟨'\x07', false⟩, rest)
  | 'f' :: rest => some (.letter ⟨'\x0C', false⟩, rest)
  | 't' :: rest => some (.letter ⟨'\t', false⟩, rest)
  | 'n' :: rest => some (.letter ⟨'\n', false⟩, rest)
  | 'r' :: rest => some (.letter ⟨'\r', false⟩, rest)
  | 'v' :: rest => some (.letter ⟨'\x0B', false⟩, rest)
  | 'A' :: rest => some (.assertion .textStart, rest)
  | 'z' :: rest => some (.assertion .textEnd, rest)
  | 'b' :: rest => readBoundary? verbose rest
  | 'B' :: rest => some (.assertion .notWordBoundary, rest)
  | '<' :: rest => some (.assertion .wordStart, rest)
  | '>' :: rest => some (.assertion .wordEnd, rest)
  | c :: rest => if isEscapable c then some (.letter ⟨c, false⟩, rest) else none

def Sign.toTree : Sign → Tree
  | .letter c => .letter c
  | .assertion condition => .assertion condition
  | .short name negated => .short name negated
  | .property asked negated => .property asked negated

/-! ## Brackets -/

def asciiClassOfName? (name : List Char) : Option AsciiClass :=
  match String.ofList name with
  | "alnum" => some .alnum
  | "alpha" => some .alpha
  | "ascii" => some .ascii
  | "blank" => some .blank
  | "cntrl" => some .cntrl
  | "digit" => some .digit
  | "graph" => some .graph
  | "lower" => some .lower
  | "print" => some .print
  | "punct" => some .punct
  | "space" => some .space
  | "upper" => some .upper
  | "word" => some .word
  | "xdigit" => some .xdigit
  | _ => none

def readAsciiClass? (text : List Char) : Option (ClassItem × List Char) :=
  match text with
  | ':' :: rest =>
      let (negated, rest) := match rest with
        | '^' :: rest => (true, rest)
        | rest => (false, rest)
      match rest.dropWhile (· != ':') with
      | ':' :: ']' :: behind =>
          (asciiClassOfName? (rest.takeWhile (· != ':'))).map fun name =>
            (.ascii name negated, behind)
      | _ => none
  | _ => none

def readClassSign? (verbose : Bool) : List Char → Option (Sign × List Char)
  | [] => none
  | '\\' :: rest => readEscape? verbose rest
  | c :: rest => some (.letter ⟨c, false⟩, rest)

def Sign.toClassItem? : Sign → Option ClassItem
  | .letter c => some (.letter c)
  | .assertion _ => none
  | .short name negated => some (.short name negated)
  | .property asked negated => some (.property asked negated)

def Sign.toLetter? : Sign → Option Letter
  | .letter c => some c
  | _ => none

/-- A range such as `a-z`, or a single item.  A hyphen before a closing bracket
or another hyphen makes no range. -/
def readClassRange? (verbose : Bool) (text : List Char) : Option (ClassItem × List Char) := do
  let (first, rest) ← readClassSign? verbose text
  match skip verbose rest with
  | [] => none
  | '-' :: behind =>
      let next := peekBehind? verbose behind
      if next = some ']' ∨ next = some '-' then
        return (← first.toClassItem?, '-' :: behind)
      else
        let (second, rest) ← readClassSign? verbose (skip verbose behind)
        let low ← first.toLetter?
        let high ← second.toLetter?
        if low.char ≤ high.char then return (.range low high, rest) else none
  | rest => return (← first.toClassItem?, rest)

/-- A bracket that is open: its items from the last to the first, and the set
operation that waits for its right side. -/
structure OpenClass where
  negated : Bool
  pending : Option (SetOp × ClassItem)
  items : List ClassItem

namespace OpenClass

def united (cls : OpenClass) : ClassItem :=
  match cls.items with
  | [] => .nothing
  | [item] => item
  | items => .union items.reverse

def finished (cls : OpenClass) : ClassItem :=
  match cls.pending with
  | none => cls.united
  | some (op, left) => .operation op left cls.united

def push (cls : OpenClass) (item : ClassItem) : OpenClass :=
  { cls with items := item :: cls.items }

def operate (cls : OpenClass) (op : SetOp) : OpenClass :=
  { cls with pending := some (op, cls.finished), items := [] }

end OpenClass

def readHyphens (verbose : Bool) : Nat → OpenClass → List Char → OpenClass × List Char
  | fuel + 1, cls, '-' :: rest =>
      readHyphens verbose fuel (cls.push (.letter ⟨'-', false⟩)) (skip verbose rest)
  | _, cls, text => (cls, text)

/-- The head of a bracket, from behind the bracket sign: a `^`, then hyphens or
a closing bracket that stand for themselves. -/
def openClass? (verbose : Bool) (text : List Char) : Option (OpenClass × List Char) :=
  let (negated, text) := match skip verbose text with
    | '^' :: rest => (true, skip verbose rest)
    | rest => (false, rest)
  let (cls, text) := readHyphens verbose text.length ⟨negated, none, []⟩ text
  match text with
  | [] => none
  | ']' :: rest =>
      if cls.items.isEmpty then
        match skip verbose rest with
        | [] => none
        | rest => some (cls.push (.letter ⟨']', false⟩), rest)
      else some (cls, ']' :: rest)
  | text => some (cls, text)

/-- Reads to the end of the outermost bracket; `outer` are the brackets around
the open one, from the inside to the outside. -/
def readClass? (verbose : Bool) :
    Nat → OpenClass → List OpenClass → List Char → Option (Tree × List Char)
  | 0, _, _, _ => none
  | fuel + 1, cls, outer, text =>
      match skip verbose text with
      | [] => none
      | '[' :: rest =>
          match readAsciiClass? rest with
          | some (item, rest) => readClass? verbose fuel (cls.push item) outer rest
          | none => do
              let (inner, rest) ← openClass? verbose rest
              readClass? verbose fuel inner (cls :: outer) rest
      | ']' :: rest =>
          match outer with
          | [] => some (.bracket cls.negated cls.finished, rest)
          | parent :: outer =>
              readClass? verbose fuel (parent.push (.bracket cls.negated cls.finished)) outer rest
      | '&' :: '&' :: rest => readClass? verbose fuel (cls.operate .intersection) outer rest
      | '-' :: '-' :: rest => readClass? verbose fuel (cls.operate .difference) outer rest
      | '~' :: '~' :: rest => readClass? verbose fuel (cls.operate .symmetricDifference) outer rest
      | text => do
          let (item, rest) ← readClassRange? verbose text
          readClass? verbose fuel (cls.push item) outer rest

/-! ## Groups and flags -/

def flagOfChar? : Char → Option Flag
  | 'i' => some .ignoreCase
  | 'm' => some .multiLine
  | 's' => some .dotAll
  | 'U' => some .swapGreed
  | 'u' => some .unicode
  | 'R' => some .carriageReturn
  | 'x' => some .verbose
  | _ => none

/-- Flags up to a `:` or a closing parenthesis, each at most once, with at most
one `-` that has to have flags behind it.  The result tells the closing sign. -/
def readFlags? (change : FlagChange) (negated : Bool) (dangling : Bool) :
    List Char → Option (FlagChange × Char × List Char)
  | [] => none
  | c :: rest =>
      if c = ':' ∨ c = ')' then
        if dangling then none else some (change, c, rest)
      else if c = '-' then
        if negated then none else readFlags? change true true rest
      else
        match flagOfChar? c with
        | none => none
        | some flag =>
            if (change.setting? flag).isSome then none
            else readFlags? (change ++ [(flag, !negated)]) negated false rest

def isAlphabetic (c : Char) : Bool :=
  ((Unicode.binaryProperty? "alphabetic").getD []).has c.toNat

def isNumeric (c : Char) : Bool :=
  ((Unicode.generalCategory? "n").getD []).has c.toNat

def isNameStart (c : Char) : Bool := c == '_' || isAlphabetic c

def isNameChar (c : Char) : Bool :=
  c == '_' || c == '.' || c == '[' || c == ']' || isAlphabetic c || isNumeric c

def readGroupName? (text : List Char) : Option (List Char × List Char) :=
  match text.takeWhile (· != '>'), text.dropWhile (· != '>') with
  | first :: others, '>' :: rest =>
      if isNameStart first && others.all isNameChar then some (first :: others, rest) else none
  | _, _ => none

inductive GroupHead where
  | capture (name : Option (List Char))
  | scoped (change : FlagChange)
  /-- No group: flags for what follows in the group around. -/
  | change (change : FlagChange)

/-- The head of a group, from behind its parenthesis.  Looking ahead or behind
is no part of the language. -/
def readGroupHead? (verbose : Bool) (text : List Char) : Option (GroupHead × List Char) :=
  match skip verbose text with
  | '?' :: '=' :: _ => none
  | '?' :: '!' :: _ => none
  | '?' :: '<' :: '=' :: _ => none
  | '?' :: '<' :: '!' :: _ => none
  | '?' :: 'P' :: '<' :: rest =>
      (readGroupName? rest).map fun (name, rest) => (.capture (some name), rest)
  | '?' :: '<' :: rest =>
      (readGroupName? rest).map fun (name, rest) => (.capture (some name), rest)
  | '?' :: rest => do
      let (change, closing, rest) ← readFlags? [] false false rest
      if closing = ':' then return (.scoped change, rest)
      else if change.isEmpty then none
      else return (.change change, rest)
  | rest => some (.capture none, rest)

/-! ## The whole pattern -/

structure OpenGroup where
  close : Tree → Tree
  parts : List Tree
  branches : List Tree
  verbose : Bool

/-- What was read of a pattern.  Parts and branches of the innermost open group
are kept from the last to the first. -/
structure Progress where
  parts : List Tree
  branches : List Tree
  outer : List OpenGroup
  verbose : Bool
  names : List (List Char)

namespace Progress

def start : Progress := ⟨[], [], [], false, []⟩

def push (state : Progress) (tree : Tree) : Progress :=
  { state with parts := tree :: state.parts }

def content (state : Progress) : Tree :=
  .ofBranches ((Tree.ofParts state.parts.reverse :: state.branches).reverse)

def branch (state : Progress) : Progress :=
  { state with parts := [], branches := Tree.ofParts state.parts.reverse :: state.branches }

def enter (state : Progress) (close : Tree → Tree) (verbose : Bool) : Progress :=
  { state with
    parts := [], branches := [], verbose := verbose
    outer := ⟨close, state.parts, state.branches, state.verbose⟩ :: state.outer }

def openGroup? (state : Progress) : GroupHead → Option Progress
  | .capture none => some (state.enter .capture state.verbose)
  | .capture (some name) =>
      if state.names.contains name then none
      else some (({ state with names := name :: state.names }).enter .capture state.verbose)
  | .scoped change =>
      some (state.enter (.group change) ((change.setting? .verbose).getD state.verbose))
  | .change change =>
      some { state.push (.flags change) with
        verbose := (change.setting? .verbose).getD state.verbose }

def closeGroup? (state : Progress) : Option Progress :=
  match state.outer with
  | [] => none
  | group :: outer =>
      some { state with
        parts := group.close state.content :: group.parts
        branches := group.branches, outer := outer, verbose := group.verbose }

/-- Repeats the last part; there has to be one that is not a change of flags. -/
def repeat? (state : Progress) (least : Nat) (most : Option Nat) : Option Progress :=
  match state.parts with
  | [] => none
  | .flags _ :: _ => none
  | .empty :: _ => none
  | part :: parts => some { state with parts := .repetition part least most :: parts }

end Progress

def dropLazy : List Char → List Char
  | '?' :: rest => rest
  | text => text

def readStep? (state : Progress) : List Char → Option (Progress × List Char)
  | [] => none
  | '(' :: rest => do
      let (head, rest) ← readGroupHead? state.verbose rest
      return (← state.openGroup? head, rest)
  | ')' :: rest => state.closeGroup?.map (·, rest)
  | '|' :: rest => some (state.branch, rest)
  | '[' :: rest => do
      let (cls, rest) ← openClass? state.verbose rest
      let (tree, rest) ← readClass? state.verbose (rest.length + 1) cls [] rest
      return (state.push tree, rest)
  | '?' :: rest => (state.repeat? 0 (some 1)).map (·, dropLazy rest)
  | '*' :: rest => (state.repeat? 0 none).map (·, dropLazy rest)
  | '+' :: rest => (state.repeat? 1 none).map (·, dropLazy rest)
  | '{' :: rest => do
      let ((least, most), rest) ← readCounts? state.verbose rest
      return (← state.repeat? least most, dropLazy (skip state.verbose rest))
  | '\\' :: rest => do
      let (sign, rest) ← readEscape? state.verbose rest
      return (state.push sign.toTree, rest)
  | '.' :: rest => some (state.push .dot, rest)
  | '^' :: rest => some (state.push (.assertion .lineStart), rest)
  | '$' :: rest => some (state.push (.assertion .lineEnd), rest)
  | c :: rest => some (state.push (.letter ⟨c, false⟩), rest)

/-- Reads on until the text is used up; every step takes a character. -/
def readSteps? : Nat → Progress → List Char → Option Progress
  | 0, _, _ => none
  | fuel + 1, state, text =>
      match skip state.verbose text with
      | [] => some state
      | text => do
          let (state, rest) ← readStep? state text
          readSteps? fuel state rest

def nestingLimit : Nat := 250

def Tree.read? (text : List Char) : Option Tree := do
  let state ← readSteps? (text.length + 1) .start text
  if state.outer.isEmpty then
    let tree := state.content
    if tree.depth ≤ nestingLimit then return tree else none
  else none

end CellGrading.Pattern
