import CellGrading.Proofs.Decimal.Spelling

/-!
# Numerals for a plain reader

A plain reader of decimals knows a minus sign and digits, and a point only between
digits.  Every numeral can be written out for such a reader: a plus is left out, and
a zero stands where the point has no digit beside it.  What is read then is the
number that the numeral writes, with a place for each digit behind the point.
-/

namespace CellGrading

/-! ## Plain readers -/

namespace Decimal

def ofDigits (negative : Bool) (digits : List Char) (scale : Nat) : Decimal :=
  ⟨(if negative then -1 else 1) * (Nat.ofDigitChars 10 digits 0 : Int), scale⟩

end Decimal

namespace Numeral

def minus (negative : Bool) : List Char := if negative then ['-'] else []

/-- The reader takes plain decimals exactly, with the scale that is written. -/
structure PlainReader (read : List Char → Option Decimal) : Prop where
  whole : ∀ (negative : Bool) (digits : List Char), digits ≠ [] →
    (∀ c ∈ digits, c.isDigit = true) →
      read (minus negative ++ digits) = some (.ofDigits negative digits 0)
  fraction : ∀ (negative : Bool) (whole fraction : List Char), whole ≠ [] → fraction ≠ [] →
    (∀ c ∈ whole ++ fraction, c.isDigit = true) →
      read (minus negative ++ (whole ++ '.' :: fraction)) =
        some (.ofDigits negative (whole ++ fraction) fraction.length)

/-! ## Writing out -/

def zeroBeside (side : Option Char) : List Char := if side = some '.' then ['0'] else []

def writtenOut (text : List Char) : List Char :=
  let (negative, digits) := splitSign text
  minus negative ++ (zeroBeside digits.head? ++ digits ++ zeroBeside digits.getLast?)

def padded (digits : List Char) : List Char := if digits.isEmpty then ['0'] else digits

theorem padded_ne_nil (digits : List Char) : padded digits ≠ [] := by
  unfold padded
  split
  · simp
  · next h => simpa using h

theorem isDigit_of_mem_padded {digits : List Char} (h : ∀ c ∈ digits, c.isDigit = true) :
    ∀ c ∈ padded digits, c.isDigit = true := by
  unfold padded
  split
  · simp
  · exact h

theorem ofDigitChars_padded (whole fraction : List Char) :
    Nat.ofDigitChars 10 (padded whole ++ fraction) 0 =
      Nat.ofDigitChars 10 (whole ++ fraction) 0 := by
  cases whole with
  | nil => simp [padded, Nat.ofDigitChars_cons]
  | cons c rest => rfl

theorem zeroBeside_of_isDigit {side : Option Char} (h : ∀ c ∈ side, c.isDigit = true) :
    zeroBeside side = [] := by
  unfold zeroBeside
  split
  · next hpoint => exact absurd rfl (ne_point_of_isDigit (h '.' hpoint))
  · rfl

theorem zeroBeside_head (whole fraction : List Char) (h : ∀ c ∈ whole, c.isDigit = true) :
    zeroBeside (whole ++ '.' :: fraction).head? ++ whole = padded whole := by
  cases whole with
  | nil => rfl
  | cons c rest =>
      rw [zeroBeside_of_isDigit (by simpa using h c (by simp))]
      rfl

theorem getLast?_point {whole fraction : List Char} (h : fraction ≠ []) :
    (whole ++ '.' :: fraction).getLast? = fraction.getLast? := by
  rw [← List.singleton_append, ← List.append_assoc, List.getLast?_append_of_ne_nil _ h]

theorem zeroBeside_getLast (whole fraction : List Char) (h : ∀ c ∈ fraction, c.isDigit = true) :
    fraction ++ zeroBeside (whole ++ '.' :: fraction).getLast? = padded fraction := by
  cases fraction with
  | nil => simp [zeroBeside, padded]
  | cons c rest =>
      rw [getLast?_point (by simp), zeroBeside_of_isDigit fun d hd => h d (List.mem_of_getLast? hd),
        List.append_nil]
      rfl

/-! ## Reading what is written out -/

theorem value_eq_ofDigits (numeral : Numeral) :
    numeral.value = .ofDigits numeral.negative (numeral.whole ++ numeral.fractionDigits)
      numeral.fractionDigits.length := by
  cases hsign : numeral.negative <;>
    simp [value, Decimal.ofDigits, hsign, digitsValue_eq_ofDigitChars]

theorem fractionDigits_of_point (negative : Bool) (whole fraction : List Char) :
    fractionDigits ⟨negative, whole, some fraction⟩ = padded fraction := by
  cases fraction <;> rfl

theorem writtenOut_of_point {negative : Bool} {whole fraction text : List Char}
    (h : Spells ⟨negative, whole, some fraction⟩ text) :
    writtenOut text = minus negative ++ (padded whole ++ '.' :: padded fraction) := by
  obtain ⟨hwell, sign, hsign, rfl⟩ := h
  have hhead := zeroBeside_head whole fraction hwell.whole
  have hlast := zeroBeside_getLast whole fraction (hwell.fraction fraction rfl)
  rw [writtenOut, splitSign_append_unsigned hwell hsign]
  simp only [unsigned]
  rw [← hhead, ← hlast]
  simp only [List.append_assoc, List.cons_append]

theorem writtenOut_of_whole {negative : Bool} {whole text : List Char}
    (h : Spells ⟨negative, whole, none⟩ text) :
    writtenOut text = minus negative ++ whole := by
  obtain ⟨hwell, sign, hsign, rfl⟩ := h
  rw [writtenOut, splitSign_append_unsigned hwell hsign]
  simp only [unsigned]
  rw [zeroBeside_of_isDigit fun c hc => hwell.whole c (List.mem_of_head? hc),
    zeroBeside_of_isDigit fun c hc => hwell.whole c (List.mem_of_getLast? hc),
    List.nil_append, List.append_nil]

section

variable {read : List Char → Option Decimal} (hread : PlainReader read)
include hread

theorem read_writtenOut {numeral : Numeral} {text : List Char} (h : numeral.Spells text) :
    read (writtenOut text) = some numeral.value := by
  have hwell := h.1
  obtain ⟨negative, whole, fraction⟩ := numeral
  cases fraction with
  | none =>
      have hne : whole ≠ [] := by simpa using hwell.digits
      rw [writtenOut_of_whole h, hread.whole negative whole hne hwell.whole, value_eq_ofDigits]
      simp [fractionDigits]
  | some fraction =>
      have hdigits : ∀ c ∈ padded whole ++ padded fraction, c.isDigit = true := by
        intro c hc
        rcases List.mem_append.1 hc with hc | hc
        · exact isDigit_of_mem_padded hwell.whole c hc
        · exact isDigit_of_mem_padded (hwell.fraction fraction rfl) c hc
      rw [writtenOut_of_point h, hread.fraction negative _ _ (padded_ne_nil whole)
        (padded_ne_nil fraction) hdigits, value_eq_ofDigits, fractionDigits_of_point,
        Decimal.ofDigits, Decimal.ofDigits, ofDigitChars_padded]

end

theorem getLast?_ne_point {digits : List Char} (h : ∀ c ∈ digits, c.isDigit = true) :
    digits.getLast? ≠ some '.' := by
  intro hlast
  exact ne_point_of_isDigit (h '.' (List.mem_of_getLast? hlast)) rfl

theorem scale_value {numeral : Numeral} {text : List Char} (h : numeral.Spells text) :
    numeral.value.scale = if text.getLast? = some '.' then 1 else numeral.places := by
  obtain ⟨hwell, sign, hsign, rfl⟩ := h
  rw [List.getLast?_append_of_ne_nil _ (unsigned_ne_nil hwell)]
  obtain ⟨negative, whole, fraction⟩ := numeral
  rcases fraction with _ | _ | ⟨c, rest⟩
  · rw [unsigned, if_neg (getLast?_ne_point hwell.whole)]
    rfl
  · simp [value, fractionDigits, unsigned]
  · have hne : c :: rest ≠ [] := by simp
    rw [unsigned, getLast?_point hne, if_neg (getLast?_ne_point (hwell.fraction _ rfl))]
    rfl

end Numeral

/-! ## Texts of cells -/

namespace Decimal

/-- The number of a text as a plain reader tells it: the text is checked to be a numeral,
blanks at its ends aside, and is written out. -/
def ofTextBy? (read : List Char → Option Decimal) (text : String) : Option Decimal :=
  if Numeral.isNumeral (Text.trimChars text.toList) then
    read (Numeral.writtenOut (Text.trimChars text.toList))
  else none

/-- A text is a number when it is a numeral between blanks.  The number has the value that
the numeral writes and a place for each of its written places, with one place where a point
is its last character.  Any plain reader tells the same number, and refuses no numeral that
is written out. -/
theorem ofText?_exact {read : List Char → Option Decimal} (hread : Numeral.PlainReader read)
    (text : String) :
    ((ofText? text).isSome = true ↔ Numeral.IsLiteral (Text.trimChars text.toList)) ∧
    (∀ numeral : Numeral, numeral.Spells (Text.trimChars text.toList) →
      ∃ number, ofText? text = some number ∧ number.toRat = numeral.toRat ∧
        number.scale = if (Text.trimChars text.toList).getLast? = some '.' then 1
          else numeral.places) ∧
    ofTextBy? read text = ofText? text ∧
    (Numeral.isNumeral (Text.trimChars text.toList) = true →
      (read (Numeral.writtenOut (Text.trimChars text.toList))).isSome = true) := by
  have hsome (numeral : Numeral) (h : numeral.Spells (Text.trimChars text.toList)) :
      ofText? text = some numeral.value :=
    (ofText?_eq_some_iff text _).2 ⟨numeral, h, rfl⟩
  refine ⟨?_, ?_, ?_, ?_⟩
  · rw [← Numeral.isNumeral_eq_true_iff, ofText?, Option.isSome_map]
    rfl
  · intro numeral h
    exact ⟨numeral.value, hsome numeral h, numeral.toRat_value, Numeral.scale_value h⟩
  · unfold ofTextBy?
    cases hnumeral : Numeral.isNumeral (Text.trimChars text.toList) with
    | true =>
        obtain ⟨numeral, h⟩ := (Numeral.isNumeral_eq_true_iff _).1 hnumeral
        rw [if_pos rfl, Numeral.read_writtenOut hread h, hsome numeral h]
    | false =>
        have hnone : Numeral.read? (Text.trimChars text.toList) = none := by
          simpa [Numeral.isNumeral] using hnumeral
        simp [ofText?, hnone]
  · intro hnumeral
    obtain ⟨numeral, h⟩ := (Numeral.isNumeral_eq_true_iff _).1 hnumeral
    rw [Numeral.read_writtenOut hread h, Option.isSome_some]

def readJoined? (text : List Char) : Option Decimal :=
  let (negative, digits) := Numeral.splitSign text
  let whole := digits.takeWhile (· != '.')
  let fraction := (digits.dropWhile (· != '.')).tail
  if (whole ++ fraction).isEmpty || !(whole ++ fraction).all Char.isDigit then none
  else some (.ofDigits negative (whole ++ fraction) fraction.length)

theorem splitSign_minus (negative : Bool) {digits : List Char}
    (h : ∀ c ∈ digits.head?, c.isDigit = true) :
    Numeral.splitSign (Numeral.minus negative ++ digits) = (negative, digits) := by
  cases negative with
  | true => rfl
  | false =>
      have hhead (c : Char) (hc : c.isDigit = false) : digits.head? ≠ some c := by
        intro hdigit
        simp [h c hdigit] at hc
      exact Numeral.splitSign_of_not_sign (hhead '-' rfl) (hhead '+' rfl)

theorem plainReader_readJoined? : Numeral.PlainReader readJoined? where
  whole := by
    intro negative digits hne hdigits
    have hsign := splitSign_minus negative fun c hc => hdigits c (List.mem_of_mem_head? hc)
    have hpoint : ∀ c ∈ digits, (c != '.') = true := fun c hc =>
      bne_iff_ne.2 (Numeral.ne_point_of_isDigit (hdigits c hc))
    have htake := Text.takeWhile_run hpoint (Text.stopsAt_nil _)
    have hdrop := Text.dropWhile_run hpoint (Text.stopsAt_nil _)
    rw [List.append_nil] at htake hdrop
    simp [readJoined?, hsign, htake, hdrop, hne, List.all_eq_true.2 hdigits]
  fraction := by
    intro negative whole fraction hwhole hfraction hdigits
    have hhead : ∀ c ∈ (whole ++ '.' :: fraction).head?, c.isDigit = true := by
      intro c hc
      rw [List.head?_append_of_ne_nil _ hwhole] at hc
      exact hdigits c (List.mem_append_left _ (List.mem_of_mem_head? hc))
    have hsign := splitSign_minus negative hhead
    have hpoint : ∀ c ∈ whole, (c != '.') = true := fun c hc =>
      bne_iff_ne.2 (Numeral.ne_point_of_isDigit (hdigits c (List.mem_append_left _ hc)))
    have hstop : Text.StopsAt (· != '.') ('.' :: fraction) := by simp
    have htake := Text.takeWhile_run hpoint hstop
    have hdrop := Text.dropWhile_run hpoint hstop
    simp [readJoined?, hsign, htake, hdrop, hwhole, List.all_eq_true.2 hdigits]

theorem ofText?_exact_padded :
    Numeral.PlainReader readJoined? ∧
    (Numeral.Spells ⟨true, ['0', '0', '7'], some []⟩ (Text.trimChars " -007.\t".toList) ∧
      ∃ number, ofText? " -007.\t" = some number ∧ number.toRat = -7 ∧ number.scale = 1 ∧
        ofTextBy? readJoined? " -007.\t" = some number) ∧
    Numeral.Spells ⟨false, [], some ['5', '0']⟩ (Text.trimChars "+.50".toList) ∧
      ∃ number, ofText? "+.50" = some number ∧ number.toRat = 1 / 2 ∧ number.scale = 2 ∧
        ofTextBy? readJoined? "+.50" = some number := by
  have hfirst : Numeral.Spells ⟨true, ['0', '0', '7'], some []⟩
      (Text.trimChars " -007.\t".toList) := (Numeral.read?_eq_some_iff _ _).1 (by decide)
  have hsecond : Numeral.Spells ⟨false, [], some ['5', '0']⟩ (Text.trimChars "+.50".toList) :=
    (Numeral.read?_eq_some_iff _ _).1 (by decide)
  refine ⟨plainReader_readJoined?, ⟨hfirst, ?_⟩, hsecond, ?_⟩
  · obtain ⟨-, hexact, hby, -⟩ := ofText?_exact plainReader_readJoined? " -007.\t"
    obtain ⟨number, hnumber, hrat, hscale⟩ := hexact _ hfirst
    refine ⟨number, hnumber, hrat.trans ?_, hscale.trans (by decide), hby.trans hnumber⟩
    have hdigits : Nat.ofDigitChars 10 ['0', '0', '7'] 0 = 7 := by decide
    norm_num [Numeral.toRat, Numeral.written, Numeral.places, hdigits]
  · obtain ⟨-, hexact, hby, -⟩ := ofText?_exact plainReader_readJoined? "+.50"
    obtain ⟨number, hnumber, hrat, hscale⟩ := hexact _ hsecond
    refine ⟨number, hnumber, hrat.trans ?_, hscale.trans (by decide), hby.trans hnumber⟩
    have hdigits : Nat.ofDigitChars 10 ['5', '0'] 0 = 50 := by decide
    norm_num [Numeral.toRat, Numeral.written, Numeral.places, hdigits]

end Decimal

end CellGrading
