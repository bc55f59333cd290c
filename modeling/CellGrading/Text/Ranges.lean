/-!
# Ranges of code points

A set of characters is a list of inclusive code point ranges.  Long tables are
kept as text, one word for each range in hexadecimal (`41-5A`, or `5F` for a
single code point), and are read with `Ranges.ofText`.
-/

namespace CellGrading.Text

abbrev Ranges := List (Nat × Nat)

namespace Ranges

def has (ranges : Ranges) (code : Nat) : Bool :=
  ranges.any fun range => decide (range.1 ≤ code) && decide (code ≤ range.2)

theorem has_iff (ranges : Ranges) (code : Nat) :
    ranges.has code = true ↔ ∃ range ∈ ranges, range.1 ≤ code ∧ code ≤ range.2 := by
  simp [has]

/-! ## Tables kept as text -/

def hexDigit? (c : Char) : Option Nat :=
  if '0' ≤ c ∧ c ≤ '9' then some (c.toNat - 48)
  else if 'A' ≤ c ∧ c ≤ 'F' then some (c.toNat - 55)
  else if 'a' ≤ c ∧ c ≤ 'f' then some (c.toNat - 87)
  else none

/-- The value of the hexadecimal digits of a word; other characters are passed over. -/
def hexValue (word : List Char) : Nat :=
  word.foldl (fun total c => match hexDigit? c with
    | some digit => 16 * total + digit
    | none => total) 0

def ofWord (word : List Char) : Nat × Nat :=
  match word.dropWhile (· != '-') with
  | [] => (hexValue word, hexValue word)
  | _ :: high => (hexValue (word.takeWhile (· != '-')), hexValue high)

def wordsRev (text : List Char) : List (List Char) :=
  let close (word : List Char) (done : List (List Char)) :=
    if word.isEmpty then done else word.reverse :: done
  let last := text.foldl (fun (word, done) c =>
    if c = ' ' ∨ c = '\n' then ([], close word done) else (c :: word, done))
    (([], []) : List Char × List (List Char))
  close last.1 last.2

def ofText (table : String) : Ranges :=
  (wordsRev table.toList).foldl (fun ranges word => ofWord word :: ranges) []

end Ranges

end CellGrading.Text
