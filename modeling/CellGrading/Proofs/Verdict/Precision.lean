import CellGrading.Pattern.Basic
import CellGrading.Proofs.Decimal.Reading
import CellGrading.Proofs.Verdict.Comparison

/-!
# Places and values of one literal

A literal is read twice: once for its value, and once for the places that its author
wrote.  The two readings agree.  The value is a whole number of units of the last written
place, so it stays what it is when it is rounded there, and a comparison after rounding
accepts every way to write the number of its literal.
-/

namespace CellGrading

open Text

/-! ## Written places -/

namespace Numeral

variable {numeral : Numeral} {text : List Char}

theorem written_of_getLast? (h : numeral.Spells text) (hpoint : text.getLast? = some '.') :
    numeral.written = [] := by
  obtain ⟨hwell, sign, hsign, rfl⟩ := h
  rw [List.getLast?_append_of_ne_nil _ (unsigned_ne_nil hwell)] at hpoint
  obtain ⟨negative, whole, fraction⟩ := numeral
  rcases fraction with _ | _ | ⟨c, rest⟩
  · rfl
  · rfl
  · rw [unsigned, getLast?_point (by simp)] at hpoint
    exact absurd hpoint (getLast?_ne_point (hwell.fraction _ rfl))

theorem places_eq (h : numeral.Spells text) :
    numeral.places = if text.getLast? = some '.' then 0 else numeral.value.scale := by
  have hscale := scale_value h
  split_ifs at hscale ⊢ with hpoint
  · rw [places, written_of_getLast? h hpoint, List.length_nil]
  · exact hscale.symm

end Numeral

theorem decimalPlaces_of_not_mem {text : String} (h : '.' ∉ text.toList) :
    decimalPlaces text = 0 := by
  have hdrop : (trimChars text.toList).dropWhile (· != '.') = [] := by
    rw [List.dropWhile_eq_nil_iff]
    intro c hc
    obtain ⟨before, after, -, -, htext⟩ := exists_trimChars text.toList
    have hmem : c ∈ text.toList := by
      rw [htext]
      simp [hc]
    simpa using fun heq : c = '.' => h (heq ▸ hmem)
  rw [decimalPlaces, hdrop]
  rfl

/-! ## Rounding to the own places -/

theorem Decimal.toRat_roundTo_of_units {number : Decimal} {places : Nat} {units : Int}
    (h : number.toRat = units / 10 ^ places) : (number.roundTo places).toRat = number.toRat := by
  rw [h, toRat_roundTo_eq_iff, h, sub_self, abs_zero]
  exact .inl (by positivity)

theorem Numeral.approximates_toRat (numeral : Numeral) : numeral.Approximates numeral.toRat := by
  rw [Approximates, unit, sub_self, abs_zero]
  exact .inl (by positivity)

theorem fares_rounded_self [Pattern.Engine] {numeral : Numeral} {literal actual : String}
    (h : numeral.Spells (trimChars literal.toList)) (hplaces : numeral.places < 2 ^ 32)
    (hactual : Writes actual numeral.toRat) {before : List Char} (hbefore : Blanks before)
    (lookup : Lookup) :
    Fares (evaluate (.ofList (before ++ ("~=".toList ++ literal.toList))) actual lookup)
      .pass := by
  obtain ⟨gap, after, hgap, hafter, hliteral⟩ := exists_trimChars literal.toList
  have hchars : before ++ ("~=".toList ++ literal.toList) =
      before ++ (Form.comparison false .rounded gap (trimChars literal.toList)).chars ++ after := by
    conv_lhs => rw [hliteral]
    simp [Form.chars, Form.mark, Shape.Comparator.symbol]
  have hspells := (Form.spells_iff (.comparison false .rounded gap (trimChars literal.toList)) _).2
    ⟨⟨hgap, numeral, h⟩, before, after, hbefore, hafter, String.toList_ofList.trans hchars⟩
  obtain ⟨operand, htext, heval⟩ := exists_evaluate_approx hspells actual lookup
  have hdecides := fun specText => decides_approx (htext ▸ h) hplaces false specText actual
  exact ⟨_, heval, (hdecides _).1.2
    ⟨numeral.toRat, hactual, by simp [numeral.approximates_toRat]⟩⟩

/-! ## The two readings -/

/-- Both readings of a literal count its written places, none where there is no point or
the point comes last.  The value is a whole number of units of the last place; its scale is
the number of places, but for a point at the end, which is read as one place.  Rounding the
value to its places changes nothing, and so the comparison with the literal after rounding
passes for every text that writes an equal number. -/
theorem Decimal.ofText?_places [Pattern.Engine] {text : String} {number : Decimal}
    (h : ofText? text = some number) :
    ∃ numeral : Numeral, numeral.Spells (trimChars text.toList) ∧
      (numeral.places < 2 ^ 32 →
        decimalPlaces text = numeral.places ∧
        ('.' ∉ text.toList ∨ (trimChars text.toList).getLast? = some '.' →
          decimalPlaces text = 0) ∧
        (∃ units : ℤ, number.toRat * 10 ^ decimalPlaces text = units) ∧
        ((trimChars text.toList).getLast? ≠ some '.' → decimalPlaces text = number.scale) ∧
        ((trimChars text.toList).getLast? = some '.' →
          decimalPlaces text = 0 ∧ number.scale = 1) ∧
        (number.roundTo (decimalPlaces text)).toRat = number.toRat ∧
        ∀ (before : List Char) (actual : String) (lookup : Lookup),
          Blanks before → Writes actual number.toRat →
            Fares (evaluate (.ofList (before ++ ("~=".toList ++ text.toList))) actual lookup)
              .pass) := by
  obtain ⟨numeral, hspells, rfl⟩ := (ofText?_eq_some_iff text number).1 h
  refine ⟨numeral, hspells, fun hplaces => ?_⟩
  have hcount := Numeral.decimalPlaces_eq hspells hplaces
  have hunits : numeral.value.toRat = (numeral.units : ℚ) / 10 ^ decimalPlaces text := by
    rw [numeral.toRat_value, numeral.toRat_eq_units, hcount]
  have hpoint (hlast : (trimChars text.toList).getLast? = some '.') : decimalPlaces text = 0 := by
    rw [hcount, Numeral.places_eq hspells, if_pos hlast]
  refine ⟨hcount, ?_, ⟨numeral.units, ?_⟩, ?_, ?_, toRat_roundTo_of_units hunits, ?_⟩
  · rintro (hnone | hlast)
    · exact decimalPlaces_of_not_mem hnone
    · exact hpoint hlast
  · rw [hunits, div_mul_cancel₀ _ (by positivity)]
  · intro hlast
    rw [hcount, Numeral.places_eq hspells, if_neg hlast]
  · intro hlast
    exact ⟨hpoint hlast, by rw [Numeral.scale_value hspells, if_pos hlast]⟩
  · intro before actual lookup hbefore hactual
    rw [numeral.toRat_value] at hactual
    exact fares_rounded_self hspells hplaces hactual hbefore lookup

/-- A bare fraction between blanks, and a point at the end, which the value counts as one
place. -/
theorem Decimal.ofText?_places_spellings :
    (ofText? " -.50\t" = some ⟨-50, 2⟩ ∧ decimalPlaces " -.50\t" = 2 ∧
      ((⟨-50, 2⟩ : Decimal).roundTo 2).toRat = (⟨-50, 2⟩ : Decimal).toRat ∧
      Blanks ['\u3000'] ∧ Writes "-0.5000" (⟨-50, 2⟩ : Decimal).toRat ∧
      Fares (evaluate "\u3000~= -.50\t" "-0.5000" .nothing) .pass) ∧
    ofText? "+007." = some ⟨70, 1⟩ ∧ decimalPlaces "+007." = 0 ∧
      ((⟨70, 1⟩ : Decimal).roundTo 0).toRat = (⟨70, 1⟩ : Decimal).toRat ∧
      Blanks [] ∧ Writes "7" (⟨70, 1⟩ : Decimal).toRat ∧
      Fares (evaluate "~=+007." "7" .nothing) .pass := by
  constructor
  · have hread : ofText? " -.50\t" = some ⟨-50, 2⟩ := by decide
    have hblanks : Blanks ['\u3000'] := by decide
    have hwrites : Writes "-0.5000" (⟨-50, 2⟩ : Decimal).toRat := by
      refine writes_of_ofText? ⟨-5000, 4⟩ (by decide) ?_
      norm_num [toRat_eq_div]
    obtain ⟨numeral, hspells, hagree⟩ := ofText?_places hread
    have hplaces : numeral.places < 2 ^ 32 := by
      have hnumeral : Numeral.Spells ⟨true, [], some ['5', '0']⟩ (trimChars " -.50\t".toList) :=
        (Numeral.read?_eq_some_iff _ _).1 (by decide)
      rw [hspells.unique hnumeral]
      decide
    obtain ⟨-, -, -, hscale, -, hround, hpass⟩ := hagree hplaces
    have hcount : decimalPlaces " -.50\t" = 2 := hscale (by decide)
    rw [hcount] at hround
    exact ⟨hread, hcount, hround, hblanks, hwrites, hpass _ "-0.5000" .nothing hblanks hwrites⟩
  · have hread : ofText? "+007." = some ⟨70, 1⟩ := by decide
    have hwrites : Writes "7" (⟨70, 1⟩ : Decimal).toRat := by
      refine writes_of_ofText? ⟨7, 0⟩ (by decide) ?_
      norm_num [toRat_eq_div]
    obtain ⟨numeral, hspells, hagree⟩ := ofText?_places hread
    have hplaces : numeral.places < 2 ^ 32 := by
      have hnumeral : Numeral.Spells ⟨false, ['0', '0', '7'], some []⟩
          (trimChars "+007.".toList) := (Numeral.read?_eq_some_iff _ _).1 (by decide)
      rw [hspells.unique hnumeral]
      decide
    obtain ⟨-, -, -, -, hpoint, hround, hpass⟩ := hagree hplaces
    have hcount : decimalPlaces "+007." = 0 := (hpoint (by decide)).1
    rw [hcount] at hround
    exact ⟨hread, hcount, hround, blanks_nil, hwrites, hpass [] "7" .nothing blanks_nil hwrites⟩

end CellGrading
