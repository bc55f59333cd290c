import CellGrading.Yaml.Scalar

/-!
# Tokens of YAML

A YAML text is cut into tokens from left to right.  Indentation becomes tokens
that open and close block collections.  That something was a key is known only
at the colon behind it, so the place of each possible key is kept, and the token
that marks a key is put in front of it afterwards.
-/

namespace CellGrading.Yaml

open Text

inductive Token where
  | streamEnd
  | versionDirective (major minor : Nat)
  | tagDirective (handle start : List Char)
  | documentStart
  | documentEnd
  | blockSequenceStart
  | blockMappingStart
  | blockEnd
  | flowSequenceStart
  | flowSequenceEnd
  | flowMappingStart
  | flowMappingEnd
  | blockEntry
  | flowEntry
  | key
  | value
  | alias (name : List Char)
  | anchor (name : List Char)
  /-- A tag as its handle and the text behind it; without a handle, the text is all. -/
  | tag (handle text : List Char)
  | scalar (text : List Char) (plain : Bool)
  deriving DecidableEq, Repr

/-! ## Directives -/

def takeVersionNumber? (cursor : Cursor) : Option (Nat × Cursor) :=
  let (digits, next) := cursor.takeWhile Char.isDigit
  if digits.isEmpty || decide (9 < digits.length) then none
  else some (digits.foldl (fun total c => 10 * total + (c.toNat - '0'.toNat)) 0, next)

/-- Whether a character can stand in a tag.  Some signs of flow collections can
only in a tag between angle brackets and in a directive. -/
def isTagChar (verbatim : Bool) (c : Char) : Bool :=
  isNameChar c || [';', '/', '?', ':', '@', '&', '=', '+', '$', '.', '%', '!', '~', '*', '\'',
    '(', ')'].contains c || (verbatim && [',', '[', ']'].contains c)

def takeTagByte? : List Char → Option (Nat × List Char)
  | '%' :: high :: low :: rest => do
      let high ← Ranges.hexDigit? high
      let low ← Ranges.hexDigit? low
      return (16 * high + low, rest)
  | _ => none

def takeTagBytes? : Nat → List Char → Option (List Char × List Char)
  | 0, text => some ([], text)
  | count + 1, text => do
      let (byte, rest) ← takeTagByte? text
      if byte / 64 = 2 then
        let (bytes, rest) ← takeTagBytes? count rest
        return (Char.ofNat byte :: bytes, rest)
      else none

def continuationBytes? (byte : Nat) : Option Nat :=
  if byte < 0x80 then some 0
  else if byte / 32 = 6 then some 1
  else if byte / 16 = 14 then some 2
  else if byte / 8 = 30 then some 3
  else none

/-- The characters of a tag and what follows them, if the escapes among them are in
order.  An escaped byte becomes the character with its number. -/
def takeTagText? (verbatim : Bool) : Nat → List Char → Option (List Char × List Char)
  | 0, _ => none
  | _, [] => some ([], [])
  | fuel + 1, c :: rest =>
      if !isTagChar verbatim c then some ([], c :: rest)
      else if c = '%' then do
        let (byte, rest) ← takeTagByte? (c :: rest)
        let (bytes, rest) ← takeTagBytes? (← continuationBytes? byte) rest
        let (text, rest) ← takeTagText? verbatim fuel rest
        return (Char.ofNat byte :: bytes ++ text, rest)
      else do
        let (text, rest) ← takeTagText? verbatim fuel rest
        return (c :: text, rest)

def Cursor.takeTagText? (cursor : Cursor) (verbatim : Bool) : Option (List Char × Cursor) := do
  let (text, rest) ← Yaml.takeTagText? verbatim (cursor.rest.length + 1) cursor.rest
  return (text, cursor.advance (cursor.rest.length - rest.length))

/-- The handle of a tag: `!`, and where another `!` follows on name characters,
all up to that. -/
def Cursor.takeHandle? (cursor : Cursor) : Option (List Char × Cursor) :=
  match cursor.rest with
  | '!' :: _ =>
      let (name, next) := (cursor.advance 1).takeWhile isNameChar
      match next.rest with
      | '!' :: _ => some ('!' :: name ++ ['!'], next.advance 1)
      | _ => some ('!' :: name, next)
  | _ => none

def takeTagDirective? (cursor : Cursor) : Option (Token × Cursor) := do
  let (handle, cursor) ← (cursor.skipWhile isGap).takeHandle?
  if handle ≠ ['!'] ∧ (handle.length = 1 ∨ handle.getLast? ≠ some '!') then none
  else
    match cursor.rest with
    | c :: _ =>
        if isGap c then
          let (start, cursor) ← (cursor.skipWhile isGap).takeTagText? true
          if !start.isEmpty && atGapOrEnd cursor.rest then
            return (.tagDirective handle start, cursor)
          else none
        else none
    | [] => none

def takeDirective? (cursor : Cursor) : Option (Token × Cursor) := do
  let (name, cursor) := (cursor.advance 1).takeWhile isNameChar
  if !atGapOrEnd cursor.rest then none
  else
    let (token, cursor) ←
      if name = ['Y', 'A', 'M', 'L'] then do
        let (major, cursor) ← takeVersionNumber? (cursor.skipWhile isGap)
        match cursor.rest with
        | '.' :: _ => do
            let (minor, cursor) ← takeVersionNumber? (cursor.advance 1)
            some (Token.versionDirective major minor, cursor)
        | _ => none
      else if name = ['T', 'A', 'G'] then takeTagDirective? cursor
      else none
    let cursor := (cursor.skipWhile isGap).skipComment
    if atBreakOrEnd cursor.rest then return (token, cursor.skipBreak) else none

/-! ## Properties of nodes -/

def takeAnchorName? (cursor : Cursor) : Option (List Char × Cursor) :=
  let (name, cursor) := (cursor.advance 1).takeWhile isNameChar
  let ends := endOr fun c => isGap c || isBreak c ||
    ['?', ':', ',', ']', '}', '%', '@', '\x60'].contains c
  if !name.isEmpty && ends cursor.rest then some (name, cursor) else none

/-- A tag: a text between angle brackets, a text behind a handle of its own, or a
text behind `!`.  A `!` with nothing behind it is a tag by itself. -/
def takeTag? (inFlow : Bool) (cursor : Cursor) : Option (Token × Cursor) := do
  let (handle, text, cursor) ←
    match cursor.rest with
    | '!' :: '<' :: _ => do
        let (text, cursor) ← (cursor.advance 2).takeTagText? true
        if !text.isEmpty && cursor.rest.head? == some '>' then some ([], text, cursor.advance 1)
        else none
    | _ => do
        let (handle, cursor) ← cursor.takeHandle?
        let (text, cursor) ← cursor.takeTagText? false
        if 1 < handle.length ∧ handle.getLast? = some '!' then
          if text.isEmpty then none else some (handle, text, cursor)
        else if handle.length = 1 && text.isEmpty then some ([], ['!'], cursor)
        else some (['!'], handle.tail ++ text, cursor)
  let ends := atGapOrEnd cursor.rest || (inFlow && cursor.rest.head? == some ',')
  if ends then return (.tag handle text, cursor) else none

/-! ## Reading -/

structure PossibleKey where
  position : Nat
  line : Nat
  column : Nat
  index : Nat
  /-- Nothing but a key can stand there. -/
  required : Bool
deriving Repr

structure Scan where
  cursor : Cursor
  /-- The tokens from the last to the first. -/
  tokens : List Token := []
  /-- The column of the innermost block collection; `-1` outside of all. -/
  indent : Int := -1
  /-- The columns of the collections around it. -/
  outer : List Int := []
  /-- The possible key of each open flow collection, and of the block around them. -/
  keys : List (Option PossibleKey) := [none]
  keyAllowed : Bool := true

namespace Scan

def inFlow (scan : Scan) : Bool := decide (1 < scan.keys.length)

def push (scan : Scan) (token : Token) : Scan := { scan with tokens := token :: scan.tokens }

def pushAt (scan : Scan) (position : Nat) (token : Token) : Scan :=
  let behind := scan.tokens.length - position
  { scan with tokens := scan.tokens.take behind ++ token :: scan.tokens.drop behind }

/-! ### Keys -/

def key? (scan : Scan) : Option PossibleKey := scan.keys.head?.join

def setKey (scan : Scan) (key : Option PossibleKey) : Scan :=
  { scan with keys := key :: scan.keys.tail }

/-- Gives up the possible key; a required one may not be given up. -/
def dropKey? (scan : Scan) : Option Scan :=
  match scan.key? with
  | some key => if key.required then none else some (scan.setKey none)
  | none => some scan

def noteKey? (scan : Scan) : Option Scan :=
  if scan.keyAllowed then do
    let required := !scan.inFlow && scan.indent == (scan.cursor.column : Int)
    let scan ← scan.dropKey?
    return scan.setKey (some
      ⟨scan.tokens.length, scan.cursor.line, scan.cursor.column, scan.cursor.index, required⟩)
  else some scan

def expire? (cursor : Cursor) : Option PossibleKey → Option (Option PossibleKey)
  | some key =>
      if key.line < cursor.line ∨ key.index + 1024 < cursor.index then
        if key.required then none else some none
      else some (some key)
  | none => some none

def expireKeys? (scan : Scan) : Option Scan := do
  let keys ← scan.keys.mapM (expire? scan.cursor)
  return { scan with keys := keys }

/-! ### Indentation -/

def openBlock (scan : Scan) (column position : Nat) (token : Token) : Scan :=
  if scan.inFlow || decide ((column : Int) ≤ scan.indent) then scan
  else
    { scan.pushAt position token with indent := column, outer := scan.indent :: scan.outer }

def closeFrom (column : Int) : Int → List Int → List Token → Int × List Int × List Token
  | indent, [], tokens => (indent, [], tokens)
  | indent, parent :: outer, tokens =>
      if column < indent then closeFrom column parent outer (.blockEnd :: tokens)
      else (indent, parent :: outer, tokens)

def closeBlocks (scan : Scan) (column : Int) : Scan :=
  if scan.inFlow then scan
  else
    let (indent, outer, tokens) := closeFrom column scan.indent scan.outer scan.tokens
    { scan with indent := indent, outer := outer, tokens := tokens }

/-! ### Blanks -/

/-- Skips blanks, comments and line ends.  A tab may not stand where a key could. -/
def skipBlanks : Nat → Scan → Scan
  | 0, scan => scan
  | fuel + 1, scan =>
      let cursor := match scan.cursor.column, scan.cursor.rest with
        | 0, '\ufeff' :: _ => scan.cursor.advance 1
        | _, _ => scan.cursor
      let tabs := scan.inFlow || !scan.keyAllowed
      let cursor := (cursor.skipWhile fun c => c == ' ' || (tabs && c == '\t')).skipComment
      match cursor.takeBreak? with
      | some (_, next) =>
          skipBlanks fuel { scan with cursor := next, keyAllowed := scan.keyAllowed || !scan.inFlow }
      | none => { scan with cursor := cursor }

/-! ### Tokens -/

def sign (scan : Scan) (count : Nat) (token : Token) : Scan :=
  { scan.push token with cursor := scan.cursor.advance count }

def allowKey (scan : Scan) (allowed : Bool) : Scan := { scan with keyAllowed := allowed }

def leaveBlocks? (scan : Scan) : Option Scan := do
  let scan ← (scan.closeBlocks (-1)).dropKey?
  return scan.allowKey false

def streamEnd? (scan : Scan) : Option Scan := do
  let scan ← scan.leaveBlocks?
  return scan.push .streamEnd

def directive? (scan : Scan) : Option Scan := do
  let scan ← scan.leaveBlocks?
  let (token, cursor) ← takeDirective? scan.cursor
  return { scan.push token with cursor := cursor }

def documentMark? (scan : Scan) (token : Token) : Option Scan := do
  let scan ← scan.leaveBlocks?
  return scan.sign 3 token

def openFlow? (scan : Scan) (token : Token) : Option Scan := do
  let scan ← scan.noteKey?
  return ({ scan with keys := none :: scan.keys }.allowKey true).sign 1 token

def closeFlow? (scan : Scan) (token : Token) : Option Scan := do
  let scan ← scan.dropKey?
  let keys := if scan.inFlow then scan.keys.tail else scan.keys
  return ({ scan with keys := keys }.allowKey false).sign 1 token

def flowEntry? (scan : Scan) : Option Scan := do
  let scan ← scan.dropKey?
  return (scan.allowKey true).sign 1 .flowEntry

def entrySign? (scan : Scan) (collection : Token) : Option Scan :=
  if scan.inFlow then some scan
  else if scan.keyAllowed then
    some (scan.openBlock scan.cursor.column scan.tokens.length collection)
  else none

def blockEntry? (scan : Scan) : Option Scan := do
  let scan ← scan.entrySign? .blockSequenceStart
  let scan ← scan.dropKey?
  return (scan.allowKey true).sign 1 .blockEntry

def keySign? (scan : Scan) : Option Scan := do
  let scan ← scan.entrySign? .blockMappingStart
  let scan ← scan.dropKey?
  return (scan.allowKey !scan.inFlow).sign 1 .key

/-- The sign of a value.  If a key may have begun before it, it has. -/
def valueSign? (scan : Scan) : Option Scan :=
  match scan.key? with
  | some key =>
      let scan := scan.pushAt key.position .key
      let scan := scan.openBlock key.column key.position .blockMappingStart
      some (((scan.setKey none).allowKey false).sign 1 .value)
  | none => do
      let scan ← scan.entrySign? .blockMappingStart
      return (scan.allowKey !scan.inFlow).sign 1 .value

def nodeStart? (scan : Scan) (take? : Cursor → Option (Token × Cursor)) : Option Scan := do
  let scan ← scan.noteKey?
  let (token, cursor) ← take? scan.cursor
  return { (scan.allowKey false).push token with cursor := cursor }

def plain? (scan : Scan) : Option Scan := do
  let scan ← scan.noteKey?
  let (plain, cursor) ← scan.cursor.takePlain? scan.inFlow (scan.indent + 1)
  return { (scan.allowKey plain.endsLine).push (.scalar plain.text true) with cursor := cursor }

def block? (scan : Scan) (literal : Bool) : Option Scan := do
  let scan ← scan.dropKey?
  let (text, cursor) ← scan.cursor.takeBlock? literal scan.indent
  return { (scan.allowKey true).push (.scalar text false) with cursor := cursor }

def quoted? (scan : Scan) (quote : Char) : Option Scan :=
  scan.nodeStart? fun cursor => do
    let (text, next) ← cursor.takeQuoted? quote
    return (.scalar text false, next)

def isIndicator (c : Char) : Bool :=
  ['-', '?', ':', ',', '[', ']', '{', '}', '#', '&', '*', '!', '|', '>', '\'', '"', '%', '@',
    '\x60'].contains c

def startsPlain (inFlow : Bool) (c : Char) (rest : List Char) : Bool :=
  (!isGap c && !isBreak c && !isIndicator c)
    || (c == '-' && !(rest.head?.any isGap))
    || (!inFlow && (c == '?' || c == ':') && !atGapOrEnd rest)

def token? (scan : Scan) (c : Char) (rest : List Char) : Option Scan :=
  let separate := atGapOrEnd rest
  if scan.cursor.column = 0 ∧ c = '%' then scan.directive?
  else if scan.cursor.atDocumentMark then
    scan.documentMark? (if c = '-' then .documentStart else .documentEnd)
  else if c = '[' then scan.openFlow? .flowSequenceStart
  else if c = '{' then scan.openFlow? .flowMappingStart
  else if c = ']' then scan.closeFlow? .flowSequenceEnd
  else if c = '}' then scan.closeFlow? .flowMappingEnd
  else if c = ',' then scan.flowEntry?
  else if c = '-' ∧ separate then scan.blockEntry?
  else if c = '?' ∧ (scan.inFlow ∨ separate) then scan.keySign?
  else if c = ':' ∧ (scan.inFlow ∨ separate) then scan.valueSign?
  else if c = '*' then
    scan.nodeStart? fun cursor => (takeAnchorName? cursor).map fun (name, next) => (.alias name, next)
  else if c = '&' then
    scan.nodeStart? fun cursor => (takeAnchorName? cursor).map fun (name, next) => (.anchor name, next)
  else if c = '!' then scan.nodeStart? (takeTag? scan.inFlow)
  else if c = '|' ∧ !scan.inFlow then scan.block? true
  else if c = '>' ∧ !scan.inFlow then scan.block? false
  else if c = '\'' ∨ c = '"' then scan.quoted? c
  else if startsPlain scan.inFlow c rest then scan.plain?
  else none

def run? : Nat → Scan → Option (List Token)
  | 0, _ => none
  | fuel + 1, scan => do
      let scan := skipBlanks (scan.cursor.rest.length + 1) scan
      let scan ← scan.expireKeys?
      let scan := scan.closeBlocks scan.cursor.column
      match scan.cursor.rest with
      | [] => return (← scan.streamEnd?).tokens.reverse
      | c :: rest => run? fuel (← scan.token? c rest)

end Scan

def dropMark : List Char → List Char
  | '\ufeff' :: text => text
  | text => text

def tokens? (text : List Char) : Option (List Token) :=
  let text := dropMark text
  if text.all isAllowed then
    Scan.run? (text.length + 1) { cursor := .ofText text }
  else none

end CellGrading.Yaml
