import CellGrading.Text.Word

/-!
# References to symbols

In a text, `$` and a name refer to a symbol.  A name is an ASCII letter and then
as many word characters as follow it; a `$` before anything else is a character
like any other.
-/

namespace CellGrading

open Text

/-- A text in pieces: single characters and references. -/
inductive Piece where
  | char (c : Char)
  | reference (name : List Char)
  deriving DecidableEq, Repr

namespace Piece

def written : Piece → List Char
  | .char c => [c]
  | .reference name => '$' :: name

def split : List Char → List Piece
  | [] => []
  | [c] => [.char c]
  | c :: first :: rest =>
      if c = '$' ∧ first.isAlpha = true then
        .reference (first :: rest.takeWhile isWord) :: split (rest.dropWhile isWord)
      else .char c :: split (first :: rest)
termination_by text => text.length
decreasing_by
  · have := (List.dropWhile_sublist isWord (l := rest)).length_le
    simp only [List.length_cons]
    omega
  · simp

theorem flatMap_written_split (text : List Char) : (split text).flatMap written = text := by
  fun_induction split text with
  | case1 => rfl
  | case2 c => rfl
  | case3 c first rest h ih =>
      rw [List.flatMap_cons, ih, h.1]
      simp [written, List.takeWhile_append_dropWhile]
  | case4 c first rest _ ih => simp [ih, written]

def name? : Piece → Option (List Char)
  | .char _ => none
  | .reference name => some name

end Piece

def referencedNames (text : String) : List String :=
  (Piece.split text.toList).filterMap fun piece => piece.name?.map String.ofList

end CellGrading
