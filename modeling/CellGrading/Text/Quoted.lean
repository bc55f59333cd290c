import CellGrading.Unicode.BinaryProperty
import CellGrading.Unicode.GeneralCategory

/-!
# Quoted text

A text in quotes, as messages show it.  What could not be seen in a message is
escaped: quotes, backslashes, control characters, blanks other than the space,
and characters that only extend the one before them.
-/

namespace CellGrading.Text

/-- The characters without a picture of their own: controls, formats, private and
unassigned code points, and separators. -/
def unprintedRanges : Ranges :=
  ["cc", "cf", "co", "cn", "zl", "zp", "zs"].flatMap fun name =>
    (Unicode.generalCategory? name).getD []

def isPrintable (c : Char) : Bool :=
  if c.toNat < 0x80 then decide (0x20 ≤ c.toNat) && decide (c.toNat < 0x7F)
  else !unprintedRanges.has c.toNat
    && !((Unicode.binaryProperty? "graphemeextend").getD []).has c.toNat

def codeEscape (c : Char) : List Char :=
  ['\\', 'u', '\x7b'] ++ Nat.toDigits 16 c.toNat ++ ['\x7d']

def quoteChar (c : Char) : List Char :=
  match c with
  | '"' => ['\\', '"']
  | '\\' => ['\\', '\\']
  | '\n' => ['\\', 'n']
  | '\r' => ['\\', 'r']
  | '\t' => ['\\', 't']
  | '\x00' => ['\\', '0']
  | c => if isPrintable c then [c] else codeEscape c

def quote (text : String) : String :=
  .ofList ('"' :: text.toList.flatMap quoteChar ++ ['"'])

end CellGrading.Text
