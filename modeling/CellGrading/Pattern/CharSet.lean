import CellGrading.Text.Word
import CellGrading.Unicode.CaseFolding
import CellGrading.Unicode.GeneralCategory

/-!
# Sets of characters

The characters that one place of a pattern accepts.  A set is kept as it was
put together, and `CharSet.has` decides membership.
-/

namespace CellGrading.Pattern

open Text

inductive CharSet where
  | ofRanges (ranges : Ranges)
  | union (first second : CharSet)
  | inter (first second : CharSet)
  | diff (first second : CharSet)
  | symmDiff (first second : CharSet)
  | compl (set : CharSet)
  /-- The set and everything that differs from a member only in case. -/
  | caseClosed (set : CharSet)

namespace CharSet

def has : CharSet → Nat → Bool
  | .ofRanges ranges, code => ranges.has code
  | .union first second, code => first.has code || second.has code
  | .inter first second, code => first.has code && second.has code
  | .diff first second, code => first.has code && !second.has code
  | .symmDiff first second, code => first.has code != second.has code
  | .compl set, code => !set.has code
  | .caseClosed set, code => (Unicode.caseVariants code).any set.has

def empty : CharSet := .ofRanges []

def single (c : Char) : CharSet := .ofRanges [(c.toNat, c.toNat)]

def between (low high : Char) : CharSet := .ofRanges [(low.toNat, high.toNat)]

def ascii : CharSet := .ofRanges [(0, 0x7F)]

def asciiCaseClosed (set : CharSet) : CharSet := .inter (.caseClosed set) ascii

@[simp] theorem has_empty (code : Nat) : empty.has code = false := rfl

theorem has_single (c d : Char) : (single c).has d.toNat = true ↔ d = c := by
  simp only [single, has, Ranges.has, List.any_cons, List.any_nil, Bool.or_false,
    Bool.and_eq_true, decide_eq_true_eq]
  constructor
  · rintro ⟨hle, hge⟩
    exact Char.toNat_inj.1 (Nat.le_antisymm hge hle)
  · rintro rfl
    exact ⟨Nat.le_refl _, Nat.le_refl _⟩

/-! ## Classes with a short name -/

def asciiWord : CharSet := .ofRanges [(0x30, 0x39), (0x41, 0x5A), (0x5F, 0x5F), (0x61, 0x7A)]

def asciiDigit : CharSet := .ofRanges [(0x30, 0x39)]

def asciiSpace : CharSet := .ofRanges [(0x9, 0xD), (0x20, 0x20)]

def word : CharSet := .union asciiWord (.ofRanges wordRanges)

def digit : CharSet := .ofRanges ((Unicode.generalCategory? "nd").getD [])

def space : CharSet := .ofRanges blankRanges

end CharSet

end CellGrading.Pattern
