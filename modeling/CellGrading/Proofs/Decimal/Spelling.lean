import CellGrading.Decimal.Numeral
import CellGrading.Proofs.Text.Stretch
import Mathlib.Data.Rat.Lemmas
import Mathlib.Tactic.Ring
import Mathlib.Tactic.FieldSimp
import Mathlib.Tactic.Positivity

/-!
# Spellings of numbers

The grammar of decimal literals, apart from the reader of them: `Numeral.Spells`
says which texts write a numeral, `Numeral.toRat` which rational the numeral
stands for.  `Numeral.read?` accepts the texts of the grammar and no others, and
the decimal that it makes of them has the value that is written.
-/

namespace CellGrading

namespace Numeral

/-! ## The grammar -/

/-- The ways to write a sign; a plus may be left out. -/
def signs : Bool → List (List Char)
  | true => [['-']]
  | false => [[], ['+']]

def unsigned (numeral : Numeral) : List Char :=
  match numeral.fraction with
  | none => numeral.whole
  | some fraction => numeral.whole ++ '.' :: fraction

/-- The parts are rows of digits, and a row without digits has another beside it. -/
structure WellFormed (numeral : Numeral) : Prop where
  whole : ∀ c ∈ numeral.whole, c.isDigit = true
  fraction : ∀ fraction ∈ numeral.fraction, ∀ c ∈ fraction, c.isDigit = true
  digits : numeral.whole ≠ [] ∨ ∃ fraction ∈ numeral.fraction, fraction ≠ []

def Spells (numeral : Numeral) (text : List Char) : Prop :=
  numeral.WellFormed ∧ ∃ sign ∈ signs numeral.negative, text = sign ++ numeral.unsigned

def IsLiteral (text : List Char) : Prop := ∃ numeral : Numeral, numeral.Spells text

def written (numeral : Numeral) : List Char := numeral.fraction.getD []

theorem WellFormed.written {numeral : Numeral} (h : numeral.WellFormed) :
    ∀ c ∈ numeral.written, c.isDigit = true := by
  intro c hc
  cases hfraction : numeral.fraction with
  | none => simp [Numeral.written, hfraction] at hc
  | some fraction =>
      exact h.fraction fraction hfraction c (by simpa [Numeral.written, hfraction] using hc)

def places (numeral : Numeral) : Nat := numeral.written.length

/-- The rational that the numeral stands for: its digits, read as a whole number,
over ten to the number of places. -/
def toRat (numeral : Numeral) : ℚ :=
  (if numeral.negative then -1 else 1) *
    (Nat.ofDigitChars 10 (numeral.whole ++ numeral.written) 0 : ℚ) / 10 ^ numeral.places

/-! ## Characters of literals -/

def isPart (c : Char) : Bool := c.isDigit || c == '.' || c == '+' || c == '-'

theorem isPart_of_isDigit {c : Char} (h : c.isDigit = true) : isPart c = true := by
  simp [isPart, h]

theorem ne_point_of_isDigit {c : Char} (h : c.isDigit = true) : c ≠ '.' := by
  rintro rfl
  exact absurd h (by decide)

theorem ne_of_isPart {c d : Char} (hc : isPart c = true) (hd : isPart d = false) : c ≠ d := by
  rintro rfl
  simp [hc] at hd

theorem isBlank_of_isPart {c : Char} (h : isPart c = true) : Text.isBlank c = false := by
  simp only [isPart, Bool.or_eq_true, beq_iff_eq] at h
  rcases h with ((hdigit | rfl) | rfl) | rfl
  · have hrange := Char.isDigit_iff_toNat.1 hdigit
    simp only [show '0'.toNat = 48 from rfl, show '9'.toNat = 57 from rfl] at hrange
    simp only [Text.isBlank, Text.blankRanges, Text.Ranges.has, List.any_cons, List.any_nil,
      Bool.or_eq_false_iff, Bool.and_eq_false_iff, decide_eq_false_iff_not, and_true]
    omega
  · decide
  · decide
  · decide

theorem isPart_of_isBlank {c : Char} (h : Text.isBlank c = true) : isPart c = false := by
  cases hc : isPart c with
  | false => rfl
  | true => exact absurd h (by simp [isBlank_of_isPart hc])

theorem mem_sign {negative : Bool} {sign : List Char} (h : sign ∈ signs negative) {c : Char}
    (hc : c ∈ sign) : c = '-' ∨ c = '+' := by
  cases negative <;> simp only [signs, List.mem_cons, List.not_mem_nil, or_false] at h
  · rcases h with rfl | rfl
    · simp at hc
    · exact .inr (List.mem_singleton.1 hc)
  · subst h
    exact .inl (List.mem_singleton.1 hc)

theorem mem_unsigned {numeral : Numeral} (h : numeral.WellFormed) {c : Char}
    (hc : c ∈ numeral.unsigned) : c.isDigit = true ∨ c = '.' := by
  unfold unsigned at hc
  split at hc
  · exact .inl (h.whole c hc)
  · next fraction hfraction =>
      rcases List.mem_append.1 hc with hc | hc
      · exact .inl (h.whole c hc)
      · rcases List.mem_cons.1 hc with rfl | hc
        · exact .inr rfl
        · exact .inl (h.fraction fraction hfraction c hc)

theorem isPart_of_mem_unsigned {numeral : Numeral} (h : numeral.WellFormed) {c : Char}
    (hc : c ∈ numeral.unsigned) : isPart c = true := by
  rcases mem_unsigned h hc with hdigit | rfl
  · exact isPart_of_isDigit hdigit
  · rfl

theorem unsigned_ne_nil {numeral : Numeral} (h : numeral.WellFormed) :
    numeral.unsigned ≠ [] := by
  unfold unsigned
  split
  · next hfraction => simpa [hfraction] using h.digits
  · simp

theorem Spells.isPart {numeral : Numeral} {text : List Char} (h : numeral.Spells text) :
    ∀ c ∈ text, Numeral.isPart c = true := by
  obtain ⟨hwell, sign, hsign, rfl⟩ := h
  intro c hc
  rcases List.mem_append.1 hc with hc | hc
  · rcases mem_sign hsign hc with rfl | rfl <;> rfl
  · exact isPart_of_mem_unsigned hwell hc

theorem Spells.ne_nil {numeral : Numeral} {text : List Char} (h : numeral.Spells text) :
    text ≠ [] := by
  obtain ⟨hwell, sign, -, rfl⟩ := h
  simp [unsigned_ne_nil hwell]

namespace IsLiteral

variable {text : List Char}

theorem isPart (h : IsLiteral text) : ∀ c ∈ text, Numeral.isPart c = true :=
  h.choose_spec.isPart

theorem ne_nil (h : IsLiteral text) : text ≠ [] := h.choose_spec.ne_nil

theorem stopsAt_isBlank (h : IsLiteral text) : Text.StopsAt Text.isBlank text :=
  fun c hc => isBlank_of_isPart (h.isPart c (List.mem_of_mem_head? hc))

theorem trimmed (h : IsLiteral text) : Text.Trimmed text :=
  ⟨h.stopsAt_isBlank,
    fun c hc => isBlank_of_isPart (h.isPart c (List.mem_of_mem_getLast? hc))⟩

end IsLiteral

/-! ## Reading -/

theorem splitSign_of_not_sign {text : List Char} (hminus : text.head? ≠ some '-')
    (hplus : text.head? ≠ some '+') : splitSign text = (false, text) := by
  unfold splitSign
  split
  · simp at hminus
  · simp at hplus
  · rfl

theorem splitSign_append_unsigned {numeral : Numeral} (h : numeral.WellFormed)
    {sign : List Char} (hsign : sign ∈ signs numeral.negative) :
    splitSign (sign ++ numeral.unsigned) = (numeral.negative, numeral.unsigned) := by
  have hhead (c : Char) (hc : c.isDigit = false) (hpoint : c ≠ '.') :
      numeral.unsigned.head? ≠ some c := by
    intro hhead
    rcases mem_unsigned h (List.mem_of_mem_head? hhead) with hdigit | heq
    · simp [hc] at hdigit
    · exact hpoint heq
  revert hsign
  cases numeral.negative <;> simp only [signs, List.mem_cons, List.not_mem_nil, or_false]
  · rintro (rfl | rfl)
    · exact splitSign_of_not_sign (hhead '-' rfl (by decide)) (hhead '+' rfl (by decide))
    · rfl
  · rintro rfl
    rfl

theorem exists_sign_append_splitSign (text : List Char) :
    ∃ sign ∈ signs (splitSign text).1, text = sign ++ (splitSign text).2 := by
  unfold splitSign
  split
  · exact ⟨['-'], by simp [signs], rfl⟩
  · exact ⟨['+'], by simp [signs], rfl⟩
  · exact ⟨[], by simp [signs], rfl⟩

theorem readDigits?_unsigned {numeral : Numeral} (h : numeral.WellFormed) :
    readDigits? numeral.unsigned = some (numeral.whole, numeral.fraction) := by
  obtain ⟨negative, whole, fraction⟩ := numeral
  cases fraction with
  | none =>
      have hwhole : whole ≠ [] := by simpa using h.digits
      have htake : whole.takeWhile Char.isDigit = whole := by
        simpa using Text.takeWhile_run h.whole (Text.stopsAt_nil Char.isDigit)
      have hdrop : whole.dropWhile Char.isDigit = [] := by
        simpa using Text.dropWhile_run h.whole (Text.stopsAt_nil Char.isDigit)
      simp [unsigned, readDigits?, htake, hdrop, hwhole]
  | some fraction =>
      have hstop : Text.StopsAt Char.isDigit ('.' :: fraction) := by
        rw [Text.stopsAt_cons]
        rfl
      have hfraction : ∀ c ∈ fraction, c.isDigit = true := h.fraction fraction rfl
      have hdigits : whole = [] → fraction ≠ [] := by
        intro hnil
        simpa [hnil] using h.digits
      simp only [unsigned, readDigits?, Text.takeWhile_run h.whole hstop,
        Text.dropWhile_run h.whole hstop]
      simpa using ⟨hfraction, hdigits⟩

theorem wellFormed_of_readDigits? {text whole : List Char} {fraction : Option (List Char)}
    (h : readDigits? text = some (whole, fraction)) (negative : Bool) :
    (⟨negative, whole, fraction⟩ : Numeral).WellFormed ∧
      (⟨negative, whole, fraction⟩ : Numeral).unsigned = text := by
  have htext : text.takeWhile Char.isDigit ++ text.dropWhile Char.isDigit = text :=
    List.takeWhile_append_dropWhile
  have hrun : ∀ c ∈ text.takeWhile Char.isDigit, c.isDigit = true :=
    fun c hc => List.mem_takeWhile_imp hc
  unfold readDigits? at h
  split at h
  · next hdrop =>
      dsimp only at h
      split at h
      · cases h
      · next hempty =>
          cases h
          refine ⟨⟨hrun, by simp, .inl (by simpa using hempty)⟩, ?_⟩
          simpa [unsigned, hdrop] using htext
  · next rest hdrop =>
      dsimp only at h
      split at h
      · next hrest =>
          cases h
          simp only [Bool.and_eq_true, List.all_eq_true, Bool.not_eq_true',
            Bool.and_eq_false_iff, List.isEmpty_eq_false_iff] at hrest
          refine ⟨⟨hrun, ?_, ?_⟩, ?_⟩
          · rintro _ ⟨⟩
            exact hrest.1
          · simpa using hrest.2
          · simpa [unsigned, hdrop] using htext
      · cases h
  · cases h

theorem read?_eq_some_iff (text : List Char) (numeral : Numeral) :
    read? text = some numeral ↔ numeral.Spells text := by
  constructor
  · intro h
    simp only [read?, Option.map_eq_some_iff] at h
    obtain ⟨⟨whole, fraction⟩, hdigits, rfl⟩ := h
    obtain ⟨hwell, hrest⟩ := wellFormed_of_readDigits? hdigits (splitSign text).1
    obtain ⟨sign, hsign, htext⟩ := exists_sign_append_splitSign text
    exact ⟨hwell, sign, hsign, by rw [hrest, ← htext]⟩
  · rintro ⟨hwell, sign, hsign, rfl⟩
    simp [read?, splitSign_append_unsigned hwell hsign, readDigits?_unsigned hwell]

theorem isNumeral_eq_true_iff (text : List Char) : isNumeral text = true ↔ IsLiteral text := by
  simp only [isNumeral, Option.isSome_iff_exists, read?_eq_some_iff, IsLiteral]

instance : DecidablePred IsLiteral := fun text =>
  decidable_of_iff _ (isNumeral_eq_true_iff text)

theorem Spells.unique {first second : Numeral} {text : List Char} (hfirst : first.Spells text)
    (hsecond : second.Spells text) : first = second := by
  rw [← read?_eq_some_iff] at hfirst hsecond
  exact Option.some.inj (hfirst.symm.trans hsecond)

/-! ## Values -/

theorem digitsValue_eq_ofDigitChars (digits : List Char) :
    digitsValue digits = Nat.ofDigitChars 10 digits 0 :=
  Nat.ofDigitChars_eq_foldl.symm

end Numeral

/-! ## Decimals and rationals -/

namespace Decimal

theorem toRat_eq_div (number : Decimal) :
    number.toRat = (number.unscaled : ℚ) / 10 ^ number.scale := by
  rw [toRat, Rat.mkRat_eq_div, Nat.pow_eq]
  push_cast
  rfl

end Decimal

namespace Numeral

theorem fractionDigits_eq (numeral : Numeral) :
    numeral.fractionDigits = numeral.written ∨
      numeral.written = [] ∧ numeral.fractionDigits = ['0'] := by
  obtain ⟨negative, whole, fraction⟩ := numeral
  cases fraction with
  | none => exact .inl rfl
  | some fraction =>
      cases fraction with
      | nil => exact .inr ⟨rfl, rfl⟩
      | cons c rest => exact .inl rfl

theorem toRat_value (numeral : Numeral) : numeral.value.toRat = numeral.toRat := by
  have hvalue : numeral.value.toRat =
      (if numeral.negative then -1 else 1) *
        (digitsValue (numeral.whole ++ numeral.fractionDigits) : ℚ) /
          10 ^ numeral.fractionDigits.length := by
    rw [Decimal.toRat_eq_div]
    cases hsign : numeral.negative <;> simp [value, hsign]
  rw [hvalue, toRat, places]
  rcases fractionDigits_eq numeral with hdigits | ⟨hnone, hzero⟩
  · rw [hdigits, digitsValue_eq_ofDigitChars]
  · have hshift : digitsValue (numeral.whole ++ ['0']) = 10 * digitsValue numeral.whole := by
      simp [digitsValue]
    rw [hzero, hnone, hshift, digitsValue_eq_ofDigitChars, List.append_nil]
    push_cast
    simp only [List.length_cons, List.length_nil]
    ring

end Numeral

/-! ## Texts that are numbers -/

/-- The text reads as a number, blanks at its ends aside, and writes this rational. -/
def Writes (text : String) (x : ℚ) : Prop :=
  ∃ numeral : Numeral, numeral.Spells (Text.trimChars text.toList) ∧ numeral.toRat = x

theorem Writes.unique {text : String} {x y : ℚ} (hx : Writes text x) (hy : Writes text y) :
    x = y := by
  obtain ⟨first, hfirst, rfl⟩ := hx
  obtain ⟨second, hsecond, rfl⟩ := hy
  rw [hfirst.unique hsecond]

namespace Decimal

theorem ofText?_eq_some_iff (text : String) (number : Decimal) :
    ofText? text = some number ↔
      ∃ numeral : Numeral, numeral.Spells (Text.trimChars text.toList) ∧
        numeral.value = number := by
  simp [ofText?, Option.map_eq_some_iff, Numeral.read?_eq_some_iff]

theorem toRat_of_ofText? {text : String} {number : Decimal} (h : ofText? text = some number) :
    Writes text number.toRat := by
  obtain ⟨numeral, hspells, rfl⟩ := (ofText?_eq_some_iff text number).1 h
  exact ⟨numeral, hspells, numeral.toRat_value.symm⟩

theorem writes_of_ofText? {text : String} {x : ℚ} (number : Decimal)
    (h : ofText? text = some number) (hx : (number.unscaled : ℚ) / 10 ^ number.scale = x) :
    Writes text x := by
  rw [← hx, ← toRat_eq_div]
  exact toRat_of_ofText? h

theorem exists_ofText?_of_writes {text : String} {x : ℚ} (h : Writes text x) :
    ∃ number, ofText? text = some number ∧ number.toRat = x := by
  obtain ⟨numeral, hspells, rfl⟩ := h
  exact ⟨numeral.value, (ofText?_eq_some_iff text _).2 ⟨numeral, hspells, rfl⟩,
    numeral.toRat_value⟩

end Decimal

/-! ## Written places -/

namespace Numeral

def units (numeral : Numeral) : Int :=
  (if numeral.negative then -1 else 1) *
    (Nat.ofDigitChars 10 (numeral.whole ++ numeral.written) 0 : Int)

theorem toRat_eq_units (numeral : Numeral) :
    numeral.toRat = (numeral.units : ℚ) / 10 ^ numeral.places := by
  cases hsign : numeral.negative <;> simp [toRat, units, hsign]

theorem utf8Size_digits {digits : List Char} (h : ∀ c ∈ digits, c.isDigit = true) :
    Text.utf8Size digits = digits.length := by
  induction digits with
  | nil => rfl
  | cons c rest ih =>
      have hc : c.utf8Size = 1 := by
        have hrange := (Char.isDigit_iff_toNat.1 (h c (by simp))).2
        rw [Char.utf8Size_eq_one_iff, UInt32.le_iff_toNat_le]
        exact hrange.trans (by decide)
      rw [Text.utf8Size_cons, hc, ih fun d hd => h d (by simp [hd]), List.length_cons,
        Nat.add_comm]

theorem dropWhile_point {numeral : Numeral} {text : List Char} (h : numeral.Spells text) :
    (text.dropWhile (· != '.')).tail = numeral.written := by
  obtain ⟨hwell, sign, hsign, rfl⟩ := h
  have hwhole : ∀ c ∈ sign ++ numeral.whole, (c != '.') = true := by
    intro c hc
    rcases List.mem_append.1 hc with hc | hc
    · rcases mem_sign hsign hc with rfl | rfl <;> rfl
    · exact bne_iff_ne.2 (ne_point_of_isDigit (hwell.whole c hc))
  obtain ⟨negative, whole, fraction⟩ := numeral
  cases fraction with
  | none =>
      have hdrop := Text.dropWhile_run hwhole (Text.stopsAt_nil _)
      rw [List.append_nil] at hdrop
      simp [unsigned, written, hdrop]
  | some fraction =>
      have hstop : Text.StopsAt (· != '.') ('.' :: fraction) := by simp
      have hdrop := Text.dropWhile_run hwhole hstop
      rw [List.append_assoc] at hdrop
      simp [unsigned, written, hdrop]

theorem decimalPlaces_eq {numeral : Numeral} {text : String}
    (h : numeral.Spells (Text.trimChars text.toList)) (hplaces : numeral.places < 2 ^ 32) :
    decimalPlaces text = numeral.places := by
  rw [decimalPlaces, dropWhile_point h, utf8Size_digits h.1.written]
  exact Nat.mod_eq_of_lt hplaces

end Numeral

end CellGrading
