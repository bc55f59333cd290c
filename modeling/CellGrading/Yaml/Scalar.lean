import CellGrading.Yaml.Cursor

/-!
# Scalars in YAML

A scalar is written in quotes, plainly, or as a block of lines.  Each reader
takes the place where a scalar begins and gives its text and the place behind
it, or nothing where the scalar is malformed.
-/

namespace CellGrading.Yaml

open Text

/-! ## In quotes -/

def escapedChar? : Char → Option Char
  | '0' => some '\x00'
  | 'a' => some '\x07'
  | 'b' => some '\x08'
  | 't' => some '\t'
  | '\t' => some '\t'
  | 'n' => some '\n'
  | 'v' => some '\x0B'
  | 'f' => some '\x0C'
  | 'r' => some '\r'
  | 'e' => some '\x1B'
  | ' ' => some ' '
  | '"' => some '"'
  | '/' => some '/'
  | '\\' => some '\\'
  | 'N' => some '\u0085'
  | '_' => some '\u00A0'
  | 'L' => some '\u2028'
  | 'P' => some '\u2029'
  | _ => none

def escapeWidth? : Char → Option Nat
  | 'x' => some 2
  | 'u' => some 4
  | 'U' => some 8
  | _ => none

def charOfHex? (digits : List Char) : Option Char := do
  let code ← digits.foldlM (fun total c => (Ranges.hexDigit? c).map (16 * total + ·)) 0
  if h : code.isValidChar then some (Char.ofNatAux code h) else none

def takeEscape? (cursor : Cursor) : Option (Char × Cursor) :=
  match cursor.rest with
  | [] => none
  | c :: rest =>
      match escapeWidth? c with
      | some width => do
          if rest.length < width then none
          else
            let escaped ← charOfHex? (rest.take width)
            return (escaped, cursor.advance (width + 1))
      | none => (escapedChar? c).map (·, cursor.advance 1)

def readQuoted? (quote : Char) : Nat → Cursor → Option (List Char × Cursor)
  | 0, _ => none
  | fuel + 1, cursor =>
      if cursor.atDocumentMark then none
      else
        match cursor.rest with
        | [] => none
        | c :: rest =>
            if c = quote then
              if quote = '\'' ∧ rest.head? = some '\'' then
                (readQuoted? quote fuel (cursor.advance 2)).map fun (text, cursor) =>
                  (quote :: text, cursor)
              else some ([], cursor.advance 1)
            else if isGap c || isBreak c then do
              let (gap, next) := cursor.takeGap 0
              let (text, cursor) ← readQuoted? quote fuel next
              return (gap.folded ++ text, cursor)
            else if quote = '"' ∧ c = '\\' then
              match (cursor.advance 1).takeBreak? with
              | some (_, next) => do
                  let (gap, next) := readGap 0 (next.rest.length + 1) ⟨[], [], false⟩ next
                  let (text, cursor) ← readQuoted? quote fuel next
                  return (gap.breaks ++ text, cursor)
              | none => do
                  let (escaped, next) ← takeEscape? (cursor.advance 1)
                  let (text, cursor) ← readQuoted? quote fuel next
                  return (escaped :: text, cursor)
            else do
              let (text, cursor) ← readQuoted? quote fuel (cursor.advance 1)
              return (c :: text, cursor)

def Cursor.takeQuoted? (cursor : Cursor) (quote : Char) : Option (List Char × Cursor) :=
  readQuoted? quote (cursor.rest.length + 1) (cursor.advance 1)

/-! ## Plain -/

def isFlowSign (c : Char) : Bool :=
  c == ',' || c == '[' || c == ']' || c == '{' || c == '}'

def endsPlain (inFlow : Bool) : List Char → Bool
  | ':' :: rest => atGapOrEnd rest
  | c :: _ => inFlow && isFlowSign c
  | [] => true

def strayColon (inFlow : Bool) : List Char → Bool
  | ':' :: c :: _ => inFlow && (isFlowSign c || c == '?')
  | _ => false

structure Plain where
  text : List Char
  endsLine : Bool

/-- Reads on in a plain scalar; `gap` is what came behind its last character. -/
def readPlain? (inFlow : Bool) (indent : Int) :
    Nat → Option Gap → Cursor → Option (Plain × Cursor)
  | 0, _, _ => none
  | fuel + 1, gap, cursor =>
      let stop : Plain × Cursor := (⟨[], gap.any fun gap => !gap.breaks.isEmpty⟩, cursor)
      match cursor.rest with
      | [] => some stop
      | c :: _ =>
          if isGap c || isBreak c then
            let (gap, next) := cursor.takeGap indent
            if gap.tabbed then none
            else if !inFlow && decide ((next.column : Int) < indent) then
              some (⟨[], !gap.breaks.isEmpty⟩, next)
            else if next.atDocumentMark || next.rest.head? == some '#' then
              some (⟨[], !gap.breaks.isEmpty⟩, next)
            else readPlain? inFlow indent fuel (some gap) next
          else if strayColon inFlow cursor.rest then none
          else if endsPlain inFlow cursor.rest then some stop
          else do
            let (plain, cursor) ← readPlain? inFlow indent fuel none (cursor.advance 1)
            return ({ plain with text := (gap.map Gap.folded).getD [] ++ c :: plain.text }, cursor)

def Cursor.takePlain? (cursor : Cursor) (inFlow : Bool) (indent : Int) :
    Option (Plain × Cursor) :=
  readPlain? inFlow indent (2 * cursor.rest.length + 2) none cursor

/-! ## As a block -/

inductive Chomping where
  | strip
  | clip
  | keep
  deriving DecidableEq, Repr

/-- The signs behind the one that opens a block: how it is chomped and, if given,
by how much it is indented. -/
def takeBlockHeader? (cursor : Cursor) : Option (Chomping × Option Nat × Cursor) :=
  let chomping? (c : Char) : Option Chomping :=
    if c = '+' then some .keep else if c = '-' then some .strip else none
  let indent? (c : Char) : Option Nat := if c.isDigit then some (c.toNat - '0'.toNat) else none
  match cursor.rest with
  | [] => some (.clip, none, cursor)
  | first :: rest =>
      match chomping? first, indent? first with
      | some chomping, _ =>
          match rest.head?.bind indent? with
          | some 0 => none
          | some indent => some (chomping, some indent, cursor.advance 2)
          | none => some (chomping, none, cursor.advance 1)
      | none, some 0 => none
      | none, some indent =>
          match rest.head?.bind chomping? with
          | some chomping => some (chomping, some indent, cursor.advance 2)
          | none => some (.clip, some indent, cursor.advance 1)
      | none, none => some (.clip, none, cursor)

/-- Skips the blanks that indent lines, and empty lines.  Without an indentation
the most that was met is found.  A tab may not indent. -/
def readIndent? (indent : Option Nat) :
    Nat → Nat → List Char → Cursor → Option (Nat × List Char × Cursor)
  | 0, _, _, _ => none
  | fuel + 1, most, breaks, cursor =>
      let blanks := (cursor.rest.takeWhile (· == ' ')).length
      let cursor := cursor.advance (match indent with
        | some indent => min blanks (indent - cursor.column)
        | none => blanks)
      let most := max most cursor.column
      let inIndent := match indent with
        | some indent => decide (cursor.column < indent)
        | none => true
      if inIndent && cursor.rest.head? == some '\t' then none
      else
        match cursor.takeBreak? with
        | some (lineEnd, next) => readIndent? indent fuel most (breaks ++ [lineEnd]) next
        | none => some (most, breaks, cursor)

def Cursor.takeIndent? (cursor : Cursor) (indent : Option Nat) :
    Option (Nat × List Char × Cursor) :=
  readIndent? indent (cursor.rest.length + 1) 0 [] cursor

/-- Reads the lines of a block.  `lineEnd` and `breaks` came behind the last line,
and `blankLine` tells whether that began with a blank. -/
def readBlock? (literal : Bool) (chomping : Chomping) (indent : Nat) :
    Nat → List Char → List Char → Bool → Cursor → Option (List Char × Cursor)
  | 0, _, _, _, _ => none
  | fuel + 1, lineEnd, breaks, blankLine, cursor =>
      if cursor.column = indent ∧ !cursor.rest.isEmpty then do
        let blank := cursor.rest.head?.any isGap
        let joined :=
          if !literal && lineEnd.head? == some '\n' && !blankLine && !blank then
            if breaks.isEmpty then [' '] else breaks
          else lineEnd ++ breaks
        let (line, cursor) := cursor.takeWhile fun c => !isBreak c
        let lineEnd := (cursor.takeBreak?.map fun taken => [taken.1]).getD []
        let (_, breaks, cursor) ← cursor.skipBreak.takeIndent? (some indent)
        let (text, cursor) ← readBlock? literal chomping indent fuel lineEnd breaks blank cursor
        return (joined ++ line ++ text, cursor)
      else
        match chomping with
        | .strip => some ([], cursor)
        | .clip => some (lineEnd, cursor)
        | .keep => some (lineEnd ++ breaks, cursor)

def Cursor.takeBlock? (cursor : Cursor) (literal : Bool) (parent : Int) :
    Option (List Char × Cursor) := do
  let (chomping, increment, cursor) ← takeBlockHeader? (cursor.advance 1)
  let cursor := (cursor.skipWhile isGap).skipComment
  if !atBreakOrEnd cursor.rest then none
  else
    let given := increment.map fun increment => (max parent 0).toNat + increment
    let (most, breaks, cursor) ← cursor.skipBreak.takeIndent? given
    let indent := given.getD (max most (max (parent + 1).toNat 1))
    readBlock? literal chomping indent (cursor.rest.length + 1) [] breaks false cursor

end CellGrading.Yaml
