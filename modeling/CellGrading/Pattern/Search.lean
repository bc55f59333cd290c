import CellGrading.Pattern.Regex

/-!
# Searching

An expression is run on all places of a text at once.  A set of places is a
number whose bit `i` tells of the place before character `i`; an expression
takes the places where it starts to those where it can stop.  The pattern is
found if, started everywhere, it can stop somewhere.
-/

namespace CellGrading.Pattern

abbrev Places := Nat

namespace Places

/-- The set of the places for which the list holds `true`, from place 0 on. -/
def ofList : List Bool → Places
  | [] => 0
  | here :: rest => (if here then 1 else 0) + 2 * ofList rest

def all (text : List Char) : Places := (1 <<< (text.length + 1)) - 1

def ofChars (text : List Char) (test : Char → Bool) : Places := ofList (text.map test)

/-- For each place, whether a condition on its neighbours holds; `before` is
the character in front of the text. -/
def conditions (test : Option Char → Option Char → Bool) (before : Option Char) :
    List Char → List Bool
  | [] => [test before none]
  | c :: rest => test before (some c) :: conditions test (some c) rest

end Places

/-- A step from the places where an expression starts to those where it stops. -/
structure Transfer where
  apply : Places → Places

namespace Transfer

/-- The step so many times in a row; once it changes nothing, no more is needed. -/
def times (step : Transfer) : Nat → Places → Places
  | 0, places => places
  | count + 1, places =>
      let next := step.apply places
      if next = places then places else times step count next

def upTo (step : Transfer) : Nat → Places → Places
  | 0, places => places
  | count + 1, places =>
      let next := places ||| step.apply places
      if next = places then places else upTo step count next

end Transfer

/-- The step of an expression on a text.  A step any number of times reaches
no more places than the text has in as many rounds. -/
def Regex.transfer (text : List Char) : Regex → Transfer
  | .empty => ⟨id⟩
  | .set chars =>
      let accepted := Places.ofChars text fun c => chars.has c.toNat
      ⟨fun places => (places &&& accepted) <<< 1⟩
  | .look condition =>
      let held := Places.ofList
        (Places.conditions (fun before after => condition.holds before after) none text)
      ⟨fun places => places &&& held⟩
  | .seq first second =>
      let first := first.transfer text
      let second := second.transfer text
      ⟨fun places => second.apply (first.apply places)⟩
  | .alt first second =>
      let first := first.transfer text
      let second := second.transfer text
      ⟨fun places => first.apply places ||| second.apply places⟩
  | .repetition body least most =>
      let body := body.transfer text
      let more := match most with
        | none => text.length + 1
        | some most => most - least
      ⟨fun places => body.upTo more (body.times least places)⟩
  | .capture body => body.transfer text

def Regex.search (regex : Regex) (text : List Char) : Bool :=
  (regex.transfer text).apply (Places.all text) != 0

end CellGrading.Pattern
