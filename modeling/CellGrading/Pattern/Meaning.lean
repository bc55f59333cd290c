import CellGrading.Pattern.Regex
import CellGrading.Pattern.Tree
import CellGrading.Unicode.Age
import CellGrading.Unicode.BinaryProperty
import CellGrading.Unicode.GraphemeBreak
import CellGrading.Unicode.Script
import CellGrading.Unicode.ScriptExtension
import CellGrading.Unicode.SentenceBreak
import CellGrading.Unicode.WordBreak

/-!
# The meaning of patterns

A tree means a regular expression, once it is known which flags hold where.
Some trees have no meaning: those that name an unknown property, and those that
leave Unicode where a part of a character would have to be matched.
-/

namespace CellGrading.Pattern

open Text

/-! ## Properties -/

/-- A name without blanks, hyphens, underscores and an `is` in front, in lower
case; characters beyond ASCII are dropped. -/
def normalName (name : String) : String :=
  let ascii := name.toList.map Char.toLower
  let (named, rest) := match ascii with
    | 'i' :: 's' :: rest => (true, rest)
    | rest => (false, rest)
  let kept := rest.filter fun c => decide (c.toNat < 0x80) && c != ' ' && c != '-' && c != '_'
  if named && kept == ['c'] then "isc" else .ofList kept

def categoryRanges? (name : String) : Option CharSet :=
  if name = "any" then some (.compl .empty)
  else if name = "ascii" then some .ascii
  else if name = "assigned" then
    (Unicode.generalCategory? "cn").map fun ranges => .compl (.ofRanges ranges)
  else (Unicode.generalCategory? name).map .ofRanges

def propertySet? : Property → Option CharSet
  | .named name =>
      let name := normalName name
      ((Unicode.binaryProperty? name).map .ofRanges)
        <|> categoryRanges? name
        <|> ((Unicode.script? name).map .ofRanges)
  | .valued name value =>
      let value := normalName value
      match normalName name with
      | "gc" | "generalcategory" => categoryRanges? value
      | "sc" | "script" => (Unicode.script? value).map .ofRanges
      | "scx" | "scriptextensions" => (Unicode.scriptExtension? value).map .ofRanges
      | "age" => (Unicode.age? value).map .ofRanges
      | "gcb" | "graphemeclusterbreak" => (Unicode.graphemeBreak? value).map .ofRanges
      | "wb" | "wordbreak" => (Unicode.wordBreak? value).map .ofRanges
      | "sb" | "sentencebreak" => (Unicode.sentenceBreak? value).map .ofRanges
      | _ => none

/-! ## Classes -/

def asciiClassRanges : AsciiClass → Ranges
  | .alnum => [(0x30, 0x39), (0x41, 0x5A), (0x61, 0x7A)]
  | .alpha => [(0x41, 0x5A), (0x61, 0x7A)]
  | .ascii => [(0x00, 0x7F)]
  | .blank => [(0x09, 0x09), (0x20, 0x20)]
  | .cntrl => [(0x00, 0x1F), (0x7F, 0x7F)]
  | .digit => [(0x30, 0x39)]
  | .graph => [(0x21, 0x7E)]
  | .lower => [(0x61, 0x7A)]
  | .print => [(0x20, 0x7E)]
  | .punct => [(0x21, 0x2F), (0x3A, 0x40), (0x5B, 0x60), (0x7B, 0x7E)]
  | .space => [(0x09, 0x0D), (0x20, 0x20)]
  | .upper => [(0x41, 0x5A)]
  | .word => [(0x30, 0x39), (0x41, 0x5A), (0x5F, 0x5F), (0x61, 0x7A)]
  | .xdigit => [(0x30, 0x39), (0x41, 0x46), (0x61, 0x66)]

structure Setting where
  ignoreCase : Bool := false
  multiLine : Bool := false
  dotAll : Bool := false
  unicode : Bool := true
  carriageReturn : Bool := false

namespace Setting

def apply (setting : Setting) (change : FlagChange) : Setting where
  ignoreCase := (change.setting? .ignoreCase).getD setting.ignoreCase
  multiLine := (change.setting? .multiLine).getD setting.multiLine
  dotAll := (change.setting? .dotAll).getD setting.dotAll
  unicode := (change.setting? .unicode).getD setting.unicode
  carriageReturn := (change.setting? .carriageReturn).getD setting.carriageReturn

def fold (setting : Setting) (set : CharSet) : CharSet :=
  if setting.ignoreCase then
    if setting.unicode then .caseClosed set else set.asciiCaseClosed
  else set

/-- The complement of a set.  Without Unicode it would hold parts of characters,
so there is none. -/
def negate? (setting : Setting) (negated : Bool) (set : CharSet) : Option CharSet :=
  if negated then
    if setting.unicode then some (.compl set) else none
  else some set

def shortSet? (setting : Setting) (name : ShortClass) (negated : Bool) : Option CharSet :=
  setting.negate? negated <|
    if setting.unicode then
      match name with
      | .digit => .digit
      | .space => .space
      | .word => .word
    else
      match name with
      | .digit => .asciiDigit
      | .space => .asciiSpace
      | .word => .asciiWord

def asciiSet? (setting : Setting) (name : AsciiClass) (negated : Bool) : Option CharSet :=
  setting.negate? negated (setting.fold (.ofRanges (asciiClassRanges name)))

def propertySet? (setting : Setting) (property : Property) (negated : Bool) : Option CharSet :=
  if setting.unicode then do
    let set ← Pattern.propertySet? property
    setting.negate? negated (setting.fold set)
  else none

/-- Whether a character may stand in a bracket: without Unicode, only ASCII may. -/
def allowsInClass (setting : Setting) (letter : Letter) : Bool :=
  setting.unicode || decide (letter.char.toNat < 0x80)

/-- Whether a character may stand by itself: without Unicode, two hexadecimal
digits stand for a byte, which beyond ASCII is only a part of a character. -/
def allows (setting : Setting) (letter : Letter) : Bool :=
  setting.unicode || !letter.byte || decide (letter.char.toNat < 0x80)

mutual

def classSet? (setting : Setting) : ClassItem → Option CharSet
  | .nothing => some .empty
  | .letter c => if setting.allowsInClass c then some (.single c.char) else none
  | .range low high =>
      if setting.allowsInClass low && setting.allowsInClass high then
        some (.between low.char high.char)
      else none
  | .ascii name negated => setting.asciiSet? name negated
  | .short name negated => setting.shortSet? name negated
  | .property asked negated => setting.propertySet? asked negated
  | .bracket negated item => do
      let set ← classSet? setting item
      setting.negate? negated (setting.fold set)
  | .union items => unionSet? setting items
  | .operation op left right => do
      let left ← classSet? setting left
      let right ← classSet? setting right
      match op with
      | .intersection => return .inter (setting.fold left) (setting.fold right)
      | .difference => return .diff (setting.fold left) (setting.fold right)
      | .symmetricDifference => return .symmDiff (setting.fold left) (setting.fold right)

def unionSet? (setting : Setting) : List ClassItem → Option CharSet
  | [] => some .empty
  | item :: rest => do
      let first ← classSet? setting item
      let others ← unionSet? setting rest
      return .union first others

end

/-! ## Other leaves -/

/-- What a character by itself stands for.  Without Unicode, only ASCII has case. -/
def letterSet (setting : Setting) (c : Char) : CharSet :=
  if setting.unicode || decide (c.toNat < 0x80) then setting.fold (.single c) else .single c

def dotSet? (setting : Setting) : Option CharSet :=
  if !setting.unicode then none
  else if setting.dotAll then some (.compl .empty)
  else if setting.carriageReturn then
    some (.compl (.ofRanges [('\n'.toNat, '\n'.toNat), ('\r'.toNat, '\r'.toNat)]))
  else some (.compl (.single '\n'))

def look (setting : Setting) : Assertion → Look
  | .lineStart => if setting.multiLine then .lineStart setting.carriageReturn else .textStart
  | .lineEnd => if setting.multiLine then .lineEnd setting.carriageReturn else .textEnd
  | .textStart => .textStart
  | .textEnd => .textEnd
  | .wordBoundary => .wordBoundary setting.unicode
  | .notWordBoundary => .notWordBoundary setting.unicode
  | .wordStart => .wordStart setting.unicode
  | .wordEnd => .wordEnd setting.unicode
  | .wordStartHalf => .wordStartHalf setting.unicode
  | .wordEndHalf => .wordEndHalf setting.unicode

end Setting

/-! ## Trees -/

mutual

/-- The expression of a tree, and the flags that hold behind it. -/
def Tree.meaning? (setting : Setting) : Tree → Option (Regex × Setting)
  | .empty => some (.empty, setting)
  | .flags change => some (.empty, setting.apply change)
  | .letter c => if setting.allows c then some (.set (setting.letterSet c.char), setting) else none
  | .dot => setting.dotSet?.map (.set ·, setting)
  | .assertion condition => some (.look (setting.look condition), setting)
  | .short name negated => (setting.shortSet? name negated).map (.set ·, setting)
  | .property asked negated => (setting.propertySet? asked negated).map (.set ·, setting)
  | .bracket negated item => (setting.classSet? (.bracket negated item)).map (.set ·, setting)
  | .repetition body least most => do
      let (body, after) ← body.meaning? setting
      return (.repetition body least most, after)
  | .capture body => do
      let (body, _) ← body.meaning? setting
      return (.capture body, setting)
  | .group change body => do
      let (body, _) ← body.meaning? (setting.apply change)
      return (body, setting)
  | .concat parts => do
      let (parts, after) ← Tree.meanings? setting parts
      return (.ofParts parts, after)
  | .alternation branches => do
      let (branches, after) ← Tree.meanings? setting branches
      return (.ofBranches branches, after)

def Tree.meanings? (setting : Setting) : List Tree → Option (List Regex × Setting)
  | [] => some ([], setting)
  | tree :: rest => do
      let (first, setting) ← tree.meaning? setting
      let (others, setting) ← Tree.meanings? setting rest
      return (first :: others, setting)

end

end CellGrading.Pattern
