import CellGrading.Symbol.Reference
import CellGrading.Symbol.Table

/-!
# Substitution of symbols

The references of a text are replaced by the values of their symbols, once to
compare and once to display.  A reference to a symbol without a value stays as
it is written, and values are not searched for references again.
-/

namespace CellGrading

/-- What is known about symbols: the value of each bound name. -/
abbrev Lookup := String → Option String

def Lookup.nothing : Lookup := fun _ => none

structure Substitution where
  /-- The text to compare with: values stand for bound references. -/
  compare : String
  /-- The text to show: `$name->[value]` stands for bound references. -/
  display : String
deriving DecidableEq, Repr

namespace Piece

def compared (lookup : Lookup) : Piece → List Char
  | .char c => [c]
  | .reference name =>
      match lookup (.ofList name) with
      | some value => value.toList
      | none => '$' :: name

def displayed (lookup : Lookup) : Piece → List Char
  | .char c => [c]
  | .reference name =>
      match lookup (.ofList name) with
      | some value => '$' :: name ++ ['-', '>', '['] ++ value.toList ++ [']']
      | none => '$' :: name

end Piece

def substitute (text : String) (lookup : Lookup) : Substitution where
  compare := .ofList ((Piece.split text.toList).flatMap (Piece.compared lookup))
  display := .ofList ((Piece.split text.toList).flatMap (Piece.displayed lookup))

theorem substitute_nothing (text : String) :
    substitute text Lookup.nothing = ⟨text, text⟩ := by
  have hc : Piece.compared Lookup.nothing = Piece.written := by
    funext piece; cases piece <;> rfl
  have hd : Piece.displayed Lookup.nothing = Piece.written := by
    funext piece; cases piece <;> rfl
  simp [substitute, hc, hd, Piece.flatMap_written_split]

end CellGrading
