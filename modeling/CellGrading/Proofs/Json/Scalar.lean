import CellGrading.Json.Reader
import CellGrading.Proofs.Text.Stretch

/-!
# Texts of strings and numbers

A string or a number may be written in several ways.  `SpellsUnits` and
`SpellsNumber` tell in which; what is written in one of them is read back as what it
spells, together with what stands behind it.
-/

namespace CellGrading.Json

open Text

/-! ## Strings -/

inductive SpellsUnit : Nat → List Char → Prop
  | plain {c : Char} (hcontrol : 0x20 ≤ c.toNat) (hquote : c ≠ '"') (hescape : c ≠ '\\') :
      SpellsUnit c.toNat [c]
  | escaped {letter c : Char} (h : escapedChar? letter = some c) :
      SpellsUnit c.toNat ['\\', letter]
  | code {first second third fourth : Char} {unit : Nat}
      (h : hexUnit? first second third fourth = some unit) :
      SpellsUnit unit ['\\', 'u', first, second, third, fourth]

inductive SpellsUnits : List Nat → List Char → Prop
  | nil : SpellsUnits [] []
  | cons {unit : Nat} {units : List Nat} {text rest : List Char} (hunit : SpellsUnit unit text)
      (hunits : SpellsUnits units rest) : SpellsUnits (unit :: units) (text ++ rest)

theorem length_le_utf8Size (text : List Char) : text.length ≤ utf8Size text := by
  induction text with
  | nil => simp
  | cons c rest ih =>
      have hc := c.utf8Size_pos
      rw [utf8Size_cons, List.length_cons]
      omega

namespace Quoted

theorem read_unit {unit : Nat} {text : List Char} (h : SpellsUnit unit text)
    (rest : List Char) : read (text ++ rest) = cons unit (read rest) := by
  cases h with
  | plain hcontrol hquote hescape =>
      rw [List.singleton_append, read, if_neg (Nat.not_lt.2 hcontrol)]
      · exact hquote
      all_goals simp [hescape]
  | @escaped letter c h =>
      have hletter : letter ≠ 'u' := by
        rintro rfl
        cases h
      rw [List.cons_append, List.singleton_append, read]
      · simp only [h]
      · exact hletter
  | @code first second third fourth unit h =>
      have hsize : ¬ utf8Size (first :: second :: third :: fourth :: rest) < 4 := by
        have hlength := length_le_utf8Size (first :: second :: third :: fourth :: rest)
        simp only [List.length_cons] at hlength
        omega
      simp only [List.cons_append, List.nil_append]
      rw [read, if_neg hsize]
      simp only [h]

theorem read_units {units : List Nat} {text : List Char} (h : SpellsUnits units text)
    (rest : List Char) : read (text ++ '"' :: rest) = (⟨units, none⟩, rest) := by
  induction h with
  | nil => rw [List.nil_append, read]
  | cons hunit _ ih => rw [List.append_assoc, read_unit hunit, ih, cons]

end Quoted

/-! ## Numbers -/

def Digits (text : List Char) : Prop := text ≠ [] ∧ ∀ c ∈ text, c.isDigit = true

inductive SpellsFraction : List Char → List Char → Prop
  | none : SpellsFraction [] []
  | some {digits : List Char} (h : Digits digits) : SpellsFraction digits ('.' :: digits)

inductive SpellsExponent : Option (Bool × List Char) → List Char → Prop
  | none : SpellsExponent none []
  | unsigned {mark : Char} {digits : List Char} (hmark : mark = 'e' ∨ mark = 'E')
      (h : Digits digits) : SpellsExponent (some (false, digits)) (mark :: digits)
  | plus {mark : Char} {digits : List Char} (hmark : mark = 'e' ∨ mark = 'E')
      (h : Digits digits) : SpellsExponent (some (false, digits)) (mark :: '+' :: digits)
  | minus {mark : Char} {digits : List Char} (hmark : mark = 'e' ∨ mark = 'E')
      (h : Digits digits) : SpellsExponent (some (true, digits)) (mark :: '-' :: digits)

/-- A text of a number from behind its sign; a zero in front stands alone. -/
inductive SpellsUnsigned (negative : Bool) : Number → List Char → Prop
  | intro {whole fraction : List Char} {exponent : Option (Bool × List Char)}
      {fractionText exponentText : List Char} (hwhole : Digits whole)
      (hzero : ∀ rest, whole = '0' :: rest → rest = [])
      (hfraction : SpellsFraction fraction fractionText)
      (hexponent : SpellsExponent exponent exponentText) :
      SpellsUnsigned negative ⟨negative, whole, fraction, exponent⟩
        (whole ++ (fractionText ++ exponentText))

inductive SpellsNumber : Number → List Char → Prop
  | positive {number : Number} {text : List Char} (h : SpellsUnsigned false number text) :
      SpellsNumber number text
  | negative {number : Number} {text : List Char} (h : SpellsUnsigned true number text) :
      SpellsNumber number ('-' :: text)

def isNumberPart (c : Char) : Bool := c.isDigit || c == '.' || c == 'e' || c == 'E'

namespace Digits

variable {digits rest : List Char}

theorem exists_cons (h : Digits digits) :
    ∃ c others, digits = c :: others ∧ c.isDigit = true := by
  cases digits with
  | nil => exact absurd rfl h.1
  | cons c others => exact ⟨c, others, rfl, h.2 c (by simp)⟩

theorem run (h : Digits digits) (hrest : StopsAt Char.isDigit rest) :
    (digits ++ rest).takeWhile Char.isDigit = digits ∧
      (digits ++ rest).dropWhile Char.isDigit = rest :=
  ⟨takeWhile_run h.2 hrest, dropWhile_run h.2 hrest⟩

end Digits

section

variable {rest : List Char}

theorem stopsAt_isDigit (h : StopsAt isNumberPart rest) : StopsAt Char.isDigit rest :=
  h.mono fun c hc => by simp [isNumberPart, hc]

theorem stopsAt_exponent {exponent : Option (Bool × List Char)} {text : List Char}
    (h : SpellsExponent exponent text) (hrest : StopsAt isNumberPart rest) :
    StopsAt (fun c => c.isDigit || c == '.') (text ++ rest) := by
  cases h with
  | none =>
      refine hrest.mono fun c hc => ?_
      simp only [isNumberPart, hc, Bool.true_or]
  | unsigned hmark => rcases hmark with rfl | rfl <;> simp
  | plus hmark => rcases hmark with rfl | rfl <;> simp
  | minus hmark => rcases hmark with rfl | rfl <;> simp

theorem readExponent_spelled (negative : Bool) (whole fraction : List Char)
    {exponent : Option (Bool × List Char)} {text : List Char} (h : SpellsExponent exponent text)
    (hrest : StopsAt isNumberPart rest) :
    readExponent negative whole fraction (text ++ rest) =
      (.number ⟨negative, whole, fraction, exponent⟩, rest) := by
  unfold readExponent
  cases h with
  | none =>
      cases rest with
      | nil => rfl
      | cons c rest =>
          have hc : isNumberPart c = false := by simpa using hrest
          have hmark : ¬ (c = 'e' ∨ c = 'E') := by
            rintro (rfl | rfl) <;> cases hc
          simp only [List.nil_append, if_neg hmark]
  | unsigned hmark h =>
      obtain ⟨htake, hdrop⟩ := h.run (stopsAt_isDigit hrest)
      obtain ⟨c, digits, rfl, hc⟩ := h.exists_cons
      have hplus : c ≠ '+' := by rintro rfl; cases hc
      have hminus : c ≠ '-' := by rintro rfl; cases hc
      simp_all
  | plus hmark h =>
      obtain ⟨htake, hdrop⟩ := h.run (stopsAt_isDigit hrest)
      obtain ⟨c, digits, rfl, hc⟩ := h.exists_cons
      simp_all
  | minus hmark h =>
      obtain ⟨htake, hdrop⟩ := h.run (stopsAt_isDigit hrest)
      obtain ⟨c, digits, rfl, hc⟩ := h.exists_cons
      simp_all

theorem stopsAt_fraction {fraction : List Char} {exponent : Option (Bool × List Char)}
    {fractionText exponentText : List Char} (hfraction : SpellsFraction fraction fractionText)
    (hexponent : SpellsExponent exponent exponentText) (hrest : StopsAt isNumberPart rest) :
    StopsAt Char.isDigit (fractionText ++ (exponentText ++ rest)) := by
  cases hfraction with
  | none => exact (stopsAt_exponent hexponent hrest).mono fun c hc => by simp [hc]
  | some => simp

theorem readFraction_spelled (negative : Bool) (whole : List Char) {fraction : List Char}
    {exponent : Option (Bool × List Char)} {fractionText exponentText : List Char}
    (hfraction : SpellsFraction fraction fractionText)
    (hexponent : SpellsExponent exponent exponentText) (hrest : StopsAt isNumberPart rest) :
    readFraction negative whole (fractionText ++ (exponentText ++ rest)) =
      (.number ⟨negative, whole, fraction, exponent⟩, rest) := by
  have hread := readExponent_spelled negative whole fraction hexponent hrest
  have hstop := stopsAt_exponent hexponent hrest
  unfold readFraction
  cases hfraction with
  | none =>
      rw [List.nil_append]
      split
      · next heq => simp [heq] at hstop
      · exact hread
  | some h =>
      obtain ⟨htake, hdrop⟩ := h.run (hstop.mono fun c hc => by simp [hc])
      obtain ⟨c, digits, rfl, -⟩ := h.exists_cons
      simp_all

theorem readNumber_spelled {negative : Bool} {number : Number} {text : List Char}
    (h : SpellsUnsigned negative number text) (hrest : StopsAt isNumberPart rest) :
    readNumber negative (text ++ rest) = (.number number, rest) := by
  cases h with
  | @intro whole fraction exponent fractionText exponentText hwhole hzero hfraction hexponent =>
      have hread := readFraction_spelled negative whole hfraction hexponent hrest
      obtain ⟨htake, hdrop⟩ := hwhole.run (stopsAt_fraction hfraction hexponent hrest)
      simp only [List.append_assoc]
      unfold readNumber
      rw [htake]
      split
      · exact absurd rfl hwhole.1
      · exact absurd rfl hwhole.1
      · cases hzero _ rfl
      · rw [hdrop]
        exact hread

end

/-! ## Heads of numbers -/

theorem SpellsUnsigned.exists_head {negative : Bool} {number : Number} {text : List Char}
    (h : SpellsUnsigned negative number text) :
    ∃ c rest, text = c :: rest ∧ c.isDigit = true := by
  cases h with
  | intro hwhole =>
      obtain ⟨c, digits, rfl, hc⟩ := hwhole.exists_cons
      exact ⟨c, _, rfl, hc⟩

theorem SpellsNumber.exists_head {number : Number} {text : List Char}
    (h : SpellsNumber number text) :
    ∃ c rest, text = c :: rest ∧ (c = '-' ∨ c.isDigit = true) := by
  cases h with
  | positive h =>
      obtain ⟨c, rest, htext, hc⟩ := h.exists_head
      exact ⟨c, rest, htext, .inr hc⟩
  | negative => exact ⟨'-', _, rfl, .inl rfl⟩

end CellGrading.Json
