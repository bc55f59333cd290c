import CellGrading.Text.Ranges

/-!
# Blanks

The blanks are the characters with the property `White_Space`.  Cells are
trimmed of them, and operators and numbers in a cell may stand apart by them.
-/

namespace CellGrading.Text

/-- The code points with the property `White_Space`. -/
def blankRanges : Ranges :=
  [(0x9, 0xD), (0x20, 0x20), (0x85, 0x85), (0xA0, 0xA0), (0x1680, 0x1680),
    (0x2000, 0x200A), (0x2028, 0x2029), (0x202F, 0x202F), (0x205F, 0x205F),
    (0x3000, 0x3000)]

def isBlank (c : Char) : Bool := blankRanges.has c.toNat

/-! ## Trimming -/

def dropBlanks (text : List Char) : List Char := text.dropWhile isBlank

def dropTrailingBlanks (text : List Char) : List Char :=
  (dropBlanks text.reverse).reverse

def trimChars (text : List Char) : List Char :=
  dropTrailingBlanks (dropBlanks text)

def trim (text : String) : String := .ofList (trimChars text.toList)

@[simp] theorem toList_trim (text : String) :
    (trim text).toList = trimChars text.toList := by simp [trim]

theorem dropBlanks_eq_self_iff (text : List Char) :
    dropBlanks text = text ↔ ∀ c ∈ text.head?, isBlank c = false := by
  cases text with
  | nil => simp [dropBlanks]
  | cons c rest =>
      cases h : isBlank c with
      | false => simp [dropBlanks, h]
      | true =>
          simp only [dropBlanks, List.dropWhile_cons, h, if_true, List.head?_cons,
            Option.mem_def, Option.some.injEq, forall_eq', Bool.true_eq_false, iff_false]
          intro heq
          have hlen := congrArg List.length heq
          have hle := (List.dropWhile_sublist isBlank (l := rest)).length_le
          simp at hlen
          omega

theorem isBlank_head_dropBlanks {text : List Char} {c : Char}
    (h : (dropBlanks text).head? = some c) : isBlank c = false := by
  induction text with
  | nil => simp [dropBlanks] at h
  | cons d rest ih =>
      cases hd : isBlank d with
      | false => simp [dropBlanks, hd] at h; simpa [← h] using hd
      | true => simp [dropBlanks, hd] at h; exact ih h

def Trimmed (text : List Char) : Prop :=
  (∀ c ∈ text.head?, isBlank c = false) ∧ (∀ c ∈ text.getLast?, isBlank c = false)

theorem dropTrailingBlanks_eq_self_iff (text : List Char) :
    dropTrailingBlanks text = text ↔ ∀ c ∈ text.getLast?, isBlank c = false := by
  rw [← List.head?_reverse, ← dropBlanks_eq_self_iff, dropTrailingBlanks,
    ← List.reverse_inj, List.reverse_reverse]

theorem head?_dropTrailingBlanks (text : List Char) :
    ∀ c ∈ (dropTrailingBlanks text).head?, c ∈ text.head? := by
  obtain ⟨tail, htail⟩ : ∃ tail, text = dropTrailingBlanks text ++ tail := by
    refine ⟨(text.reverse.takeWhile isBlank).reverse, ?_⟩
    rw [dropTrailingBlanks, dropBlanks, ← List.reverse_append,
      List.takeWhile_append_dropWhile, List.reverse_reverse]
  intro c hc
  rw [htail]
  cases h : dropTrailingBlanks text with
  | nil => simp [h] at hc
  | cons d rest => simpa [h] using hc

theorem trimmed_trimChars (text : List Char) : Trimmed (trimChars text) := by
  constructor
  · intro c hc
    exact isBlank_head_dropBlanks (head?_dropTrailingBlanks _ c hc)
  · intro c hc
    rw [trimChars, dropTrailingBlanks, List.getLast?_reverse] at hc
    exact isBlank_head_dropBlanks hc

theorem trimChars_eq_self_iff (text : List Char) :
    trimChars text = text ↔ Trimmed text := by
  constructor
  · intro h
    exact h ▸ trimmed_trimChars text
  · rintro ⟨hfirst, hlast⟩
    rw [trimChars, (dropBlanks_eq_self_iff text).2 hfirst,
      (dropTrailingBlanks_eq_self_iff text).2 hlast]

@[simp] theorem trimChars_trimChars (text : List Char) :
    trimChars (trimChars text) = trimChars text :=
  (trimChars_eq_self_iff _).2 (trimmed_trimChars text)

@[simp] theorem trim_trim (text : String) : trim (trim text) = trim text := by
  rw [← String.toList_inj]; simp

end CellGrading.Text
