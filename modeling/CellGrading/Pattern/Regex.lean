import CellGrading.Pattern.CharSet

/-!
# Regular expressions

What a pattern accepts, with all flags resolved: sets of characters, conditions
on a place, and the ways to put expressions together.  `Matches` says which
stretches of a text an expression accepts.
-/

namespace CellGrading.Pattern

inductive Look where
  | textStart
  | textEnd
  /-- The start or end of a line; with `carriageReturn` such a line may end in
  a carriage return and a line feed, or in either. -/
  | lineStart (carriageReturn : Bool)
  | lineEnd (carriageReturn : Bool)
  | wordBoundary (unicode : Bool)
  | notWordBoundary (unicode : Bool)
  | wordStart (unicode : Bool)
  | wordEnd (unicode : Bool)
  | wordStartHalf (unicode : Bool)
  | wordEndHalf (unicode : Bool)
  deriving DecidableEq, Repr

namespace Look

def atWord (unicode : Bool) : Option Char → Bool
  | none => false
  | some c => if unicode then Text.isWord c else Text.isAsciiWord c

def holds (before after : Option Char) : Look → Bool
  | .textStart => before.isNone
  | .textEnd => after.isNone
  | .lineStart false => before.isNone || before == some '\n'
  | .lineStart true =>
      before.isNone || before == some '\n' || (before == some '\r' && after != some '\n')
  | .lineEnd false => after.isNone || after == some '\n'
  | .lineEnd true =>
      after.isNone || after == some '\r' || (after == some '\n' && before != some '\r')
  | .wordBoundary unicode => atWord unicode before != atWord unicode after
  | .notWordBoundary unicode => atWord unicode before == atWord unicode after
  | .wordStart unicode => !atWord unicode before && atWord unicode after
  | .wordEnd unicode => atWord unicode before && !atWord unicode after
  | .wordStartHalf unicode => !atWord unicode before
  | .wordEndHalf unicode => !atWord unicode after

end Look

inductive Regex where
  | empty
  | set (chars : CharSet)
  | look (condition : Look)
  | seq (first second : Regex)
  | alt (first second : Regex)
  /-- At least `least` times, and without a `most` any number of times. -/
  | repetition (body : Regex) (least : Nat) (most : Option Nat)
  | capture (body : Regex)

namespace Regex

def ofParts : List Regex → Regex
  | [] => .empty
  | [part] => part
  | part :: parts => .seq part (ofParts parts)

/-- Expressions of which one is to match; without any, nothing matches. -/
def ofBranches : List Regex → Regex
  | [] => .set .empty
  | [branch] => branch
  | branch :: branches => .alt branch (ofBranches branches)

def Times (relation : Nat → Nat → Prop) : Nat → Nat → Nat → Prop
  | 0, start, stop => start = stop
  | count + 1, start, stop => ∃ middle, relation start middle ∧ Times relation count middle stop

/-- The expression accepts the stretch of the text from one place to another. -/
def Matches (text : List Char) : Regex → Nat → Nat → Prop
  | .empty, start, stop => start = stop
  | .set chars, start, stop =>
      stop = start + 1 ∧ ∃ c, text[start]? = some c ∧ chars.has c.toNat = true
  | .look condition, start, stop =>
      start = stop ∧ start ≤ text.length ∧
        condition.holds (if start = 0 then none else text[start - 1]?) text[start]? = true
  | .seq first second, start, stop =>
      ∃ middle, Matches text first start middle ∧ Matches text second middle stop
  | .alt first second, start, stop =>
      Matches text first start stop ∨ Matches text second start stop
  | .repetition body least most, start, stop =>
      ∃ count, least ≤ count ∧ (∀ limit ∈ most, count ≤ limit) ∧
        Times (Matches text body) count start stop
  | .capture body, start, stop => Matches text body start stop

def FoundIn (regex : Regex) (text : List Char) : Prop :=
  ∃ start stop, start ≤ text.length ∧ regex.Matches text start stop

end Regex

end CellGrading.Pattern
