import CellGrading.Text.Ranges

/-!
# Places in a YAML text

Where a construct stands decides what it means in YAML, so what is left of a
text goes with its line and column.
-/

namespace CellGrading.Yaml

open Text

/-! ## Classes of characters -/

def allowedRanges : Ranges :=
  [(0x9, 0xA), (0xD, 0xD), (0x20, 0x7E), (0x85, 0x85), (0xA0, 0xD7FF), (0xE000, 0xFFFD),
    (0x10000, 0x10FFFF)]

def isAllowed (c : Char) : Bool := allowedRanges.has c.toNat

def isBreak (c : Char) : Bool :=
  c == '\n' || c == '\r' || c == '\u0085' || c == '\u2028' || c == '\u2029'

def isGap (c : Char) : Bool := c == ' ' || c == '\t'

def isNameChar (c : Char) : Bool := c.isAlphanum || c == '_' || c == '-'

def endOr (test : Char → Bool) : List Char → Bool
  | [] => true
  | c :: _ => test c

def atBreakOrEnd (text : List Char) : Bool := endOr isBreak text

def atGapOrEnd (text : List Char) : Bool := endOr (fun c => isGap c || isBreak c) text

/-! ## Cursors -/

/-- What is left of a text, and where it stands; all counts begin at zero. -/
structure Cursor where
  rest : List Char
  index : Nat := 0
  line : Nat := 0
  column : Nat := 0
deriving Repr

namespace Cursor

def ofText (text : List Char) : Cursor := { rest := text }

def advance (cursor : Cursor) (count : Nat) : Cursor :=
  { cursor with
    rest := cursor.rest.drop count
    index := cursor.index + count
    column := cursor.column + count }

def takeWhile (cursor : Cursor) (test : Char → Bool) : List Char × Cursor :=
  let taken := cursor.rest.takeWhile test
  (taken, cursor.advance taken.length)

def skipWhile (cursor : Cursor) (test : Char → Bool) : Cursor := (cursor.takeWhile test).2

def nextLine (cursor : Cursor) (count : Nat) : Cursor where
  rest := cursor.rest.drop count
  index := cursor.index + count
  line := cursor.line + 1
  column := 0

/-- Takes a line end.  It is kept as a line feed, unless it is one of the
separators that say more than that. -/
def takeBreak? (cursor : Cursor) : Option (Char × Cursor) :=
  match cursor.rest with
  | '\r' :: '\n' :: _ => some ('\n', cursor.nextLine 2)
  | c :: _ =>
      if c = '\u2028' ∨ c = '\u2029' then some (c, cursor.nextLine 1)
      else if isBreak c then some ('\n', cursor.nextLine 1)
      else none
  | [] => none

def skipBreak (cursor : Cursor) : Cursor :=
  match cursor.takeBreak? with
  | some (_, next) => next
  | none => cursor

def skipComment (cursor : Cursor) : Cursor :=
  match cursor.rest with
  | '#' :: _ => cursor.skipWhile fun c => !isBreak c
  | _ => cursor

def atDocumentMark (cursor : Cursor) : Bool :=
  cursor.column == 0 &&
    match cursor.rest with
    | '-' :: '-' :: '-' :: rest => atGapOrEnd rest
    | '.' :: '.' :: '.' :: rest => atGapOrEnd rest
    | _ => false

end Cursor

/-! ## Gaps in scalars -/

structure Gap where
  /-- The blanks before the first line end. -/
  blanks : List Char
  /-- The line ends; blanks between and behind them do not count. -/
  breaks : List Char
  /-- Whether a tab stands where a line is to be indented. -/
  tabbed : Bool
deriving Repr

/-- What a row of line ends means where lines are folded: one line feed becomes a
blank, and of several the first goes. -/
def foldBreaks : List Char → List Char
  | ['\n'] => [' ']
  | '\n' :: others => others
  | breaks => breaks

def Gap.folded (gap : Gap) : List Char :=
  if gap.breaks.isEmpty then gap.blanks else foldBreaks gap.breaks

/-- Reads on to the end of a gap.  Lines are to be indented by `indent`. -/
def readGap (indent : Int) : Nat → Gap → Cursor → Gap × Cursor
  | 0, gap, cursor => (gap, cursor)
  | fuel + 1, gap, cursor =>
      match cursor.takeBreak? with
      | some (lineEnd, next) =>
          readGap indent fuel { gap with breaks := gap.breaks ++ [lineEnd] } next
      | none =>
          match cursor.rest with
          | [] => (gap, cursor)
          | c :: _ =>
              if !isGap c then (gap, cursor)
              else if gap.breaks.isEmpty then
                readGap indent fuel { gap with blanks := gap.blanks ++ [c] } (cursor.advance 1)
              else
                let tabbed := gap.tabbed || (c == '\t' && decide ((cursor.column : Int) < indent))
                readGap indent fuel { gap with tabbed := tabbed } (cursor.advance 1)

def Cursor.takeGap (cursor : Cursor) (indent : Int) : Gap × Cursor :=
  readGap indent (cursor.rest.length + 1) ⟨[], [], false⟩ cursor

end CellGrading.Yaml
