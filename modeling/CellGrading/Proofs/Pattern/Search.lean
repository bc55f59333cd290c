import CellGrading.Pattern.Search
import Mathlib.Data.Nat.Bitwise

/-!
# What a search finds

The step of an expression takes a set of places to those where the expression can stop
when it is started in the set, for each way to put expressions together.  So a search
finds an expression exactly where a stretch of the text is accepted by it.
-/

namespace CellGrading.Pattern

/-! ## Sets of places -/

namespace Places

theorem half_bit_add (here : Bool) (places : Nat) :
    ((if here then 1 else 0) + 2 * places) / 2 = places := by
  cases here <;> simp
  omega

theorem testBit_ofList (bits : List Bool) (place : Nat) :
    (ofList bits).testBit place = bits[place]?.getD false := by
  induction bits generalizing place with
  | nil => simp [ofList]
  | cons here rest ih =>
      cases place with
      | zero => cases here <;> simp [ofList, Nat.testBit_zero]
      | succ place =>
          rw [ofList, Nat.testBit_add_one, half_bit_add, ih, List.getElem?_cons_succ]

theorem testBit_all (text : List Char) (place : Nat) :
    (all text).testBit place = true ↔ place ≤ text.length := by
  rw [all, Nat.one_shiftLeft, Nat.testBit_two_pow_sub_one, decide_eq_true_iff, Nat.lt_succ_iff]

theorem testBit_ofChars (text : List Char) (test : Char → Bool) (place : Nat) :
    (ofChars text test).testBit place = true ↔ ∃ c, text[place]? = some c ∧ test c = true := by
  rw [ofChars, testBit_ofList, List.getElem?_map]
  cases text[place]? <;> simp

theorem getElem?_conditions (test : Option Char → Option Char → Bool) (before : Option Char)
    (text : List Char) {place : Nat} (h : place ≤ text.length) :
    (conditions test before text)[place]? =
      some (test (if place = 0 then before else text[place - 1]?) text[place]?) := by
  induction text generalizing before place with
  | nil =>
      obtain rfl : place = 0 := Nat.le_zero.1 h
      simp [conditions]
  | cons c rest ih =>
      cases place with
      | zero => simp [conditions]
      | succ place =>
          rw [conditions, List.getElem?_cons_succ, ih (some c) (Nat.le_of_succ_le_succ h)]
          cases place <;> simp

theorem length_conditions (test : Option Char → Option Char → Bool) (before : Option Char)
    (text : List Char) : (conditions test before text).length = text.length + 1 := by
  induction text generalizing before with
  | nil => rfl
  | cons c rest ih => rw [conditions, List.length_cons, ih, List.length_cons]

theorem testBit_conditions (test : Option Char → Option Char → Bool) (text : List Char)
    (place : Nat) :
    (ofList (conditions test none text)).testBit place = true ↔
      place ≤ text.length ∧
        test (if place = 0 then none else text[place - 1]?) text[place]? = true := by
  rw [testBit_ofList]
  by_cases h : place ≤ text.length
  · simp [getElem?_conditions test none text h, h]
  · have hnone : (conditions test none text)[place]? = none := by
      rw [List.getElem?_eq_none_iff, length_conditions]
      omega
    simp [hnone, h]

end Places

/-! ## Steps -/

/-- The step takes a set of places to those that the relation leads to from it. -/
def Transfer.Realizes (step : Transfer) (leads : Nat → Nat → Prop) : Prop :=
  ∀ places stop, (step.apply places).testBit stop = true ↔
    ∃ start, places.testBit start = true ∧ leads start stop

namespace Transfer

theorem times_eq_iterate (step : Transfer) (count : Nat) (places : Places) :
    step.times count places = step.apply^[count] places := by
  induction count generalizing places with
  | zero => rfl
  | succ count ih =>
      rw [times, Function.iterate_succ_apply]
      split
      · next hfixed => rw [hfixed, Function.iterate_fixed hfixed]
      · exact ih (step.apply places)

def orStay (step : Transfer) : Transfer := ⟨fun places => places ||| step.apply places⟩

theorem upTo_eq_times (step : Transfer) (count : Nat) (places : Places) :
    step.upTo count places = step.orStay.times count places := by
  induction count generalizing places with
  | zero => rfl
  | succ count ih => rw [upTo, times, ih, orStay]

namespace Realizes

variable {step : Transfer} {leads : Nat → Nat → Prop} (h : step.Realizes leads)
include h

theorem comp {next : Transfer} {leadsOn : Nat → Nat → Prop} (hnext : next.Realizes leadsOn) :
    Realizes ⟨fun places => next.apply (step.apply places)⟩
      fun start stop => ∃ middle, leads start middle ∧ leadsOn middle stop := by
  intro places stop
  rw [hnext (step.apply places) stop]
  constructor
  · rintro ⟨middle, hmiddle, hon⟩
    obtain ⟨start, hstart, hleads⟩ := (h places middle).1 hmiddle
    exact ⟨start, hstart, middle, hleads, hon⟩
  · rintro ⟨start, hstart, middle, hleads, hon⟩
    exact ⟨middle, (h places middle).2 ⟨start, hstart, hleads⟩, hon⟩

theorem times (count : Nat) :
    Realizes ⟨step.times count⟩ (Regex.Times leads count) := by
  rw [show step.times count = step.apply^[count] from funext (times_eq_iterate step count)]
  induction count with
  | zero =>
      intro places stop
      simp [Regex.Times]
  | succ count ih => exact h.comp ih

theorem orStay : Realizes step.orStay fun start stop => start = stop ∨ leads start stop := by
  intro places stop
  rw [Transfer.orStay, Nat.testBit_or, Bool.or_eq_true, h places stop]
  constructor
  · rintro (hstay | ⟨start, hstart, hleads⟩)
    · exact ⟨stop, hstay, .inl rfl⟩
    · exact ⟨start, hstart, .inr hleads⟩
  · rintro ⟨start, hstart, rfl | hleads⟩
    · exact .inl hstart
    · exact .inr ⟨start, hstart, hleads⟩

end Realizes

end Transfer

/-! ## Numbers of times -/

namespace Regex

variable {leads : Nat → Nat → Prop}

theorem times_orStay_iff (count start stop : Nat) :
    Times (fun start stop => start = stop ∨ leads start stop) count start stop ↔
      ∃ fewer ≤ count, Times leads fewer start stop := by
  induction count generalizing start with
  | zero => simp [Times]
  | succ count ih =>
      constructor
      · rintro ⟨middle, rfl | hleads, hrest⟩
        · obtain ⟨fewer, hle, htimes⟩ := (ih start).1 hrest
          exact ⟨fewer, Nat.le_succ_of_le hle, htimes⟩
        · obtain ⟨fewer, hle, htimes⟩ := (ih middle).1 hrest
          exact ⟨fewer + 1, Nat.succ_le_succ hle, middle, hleads, htimes⟩
      · rintro ⟨fewer, hle, htimes⟩
        cases fewer with
        | zero =>
            cases htimes
            exact ⟨_, .inl rfl, (ih _).2 ⟨0, Nat.zero_le _, rfl⟩⟩
        | succ fewer =>
            obtain ⟨middle, hleads, hrest⟩ := htimes
            exact ⟨middle, .inr hleads, (ih middle).2 ⟨fewer, Nat.le_of_succ_le_succ hle, hrest⟩⟩

theorem times_add_iff (least more start stop : Nat) :
    Times leads (least + more) start stop ↔
      ∃ middle, Times leads least start middle ∧ Times leads more middle stop := by
  induction least generalizing start with
  | zero => simp [Times]
  | succ least ih =>
      rw [Nat.succ_add]
      constructor
      · rintro ⟨next, hleads, hrest⟩
        obtain ⟨middle, hfirst, hsecond⟩ := (ih next).1 hrest
        exact ⟨middle, ⟨next, hleads, hfirst⟩, hsecond⟩
      · rintro ⟨middle, ⟨next, hleads, hfirst⟩, hsecond⟩
        exact ⟨next, hleads, (ih next).2 ⟨middle, hfirst, hsecond⟩⟩

/-- The relation never leads back, and where it leads on it stays within the text. -/
def Advances (size : Nat) (leads : Nat → Nat → Prop) : Prop :=
  ∀ start stop, leads start stop → start = stop ∨ start < stop ∧ stop ≤ size

/-- Where the relation only advances, it need not be followed more often than there are
places to advance to: the times that it stays may be left out. -/
theorem Advances.exists_times_le {size : Nat} (h : Advances size leads) {count start stop : Nat}
    (htimes : Times leads count start stop) :
    (start = stop ∨ start < stop ∧ stop ≤ size) ∧
      ∃ fewer ≤ stop - start, Times leads fewer start stop := by
  induction count generalizing start with
  | zero =>
      cases htimes
      exact ⟨.inl rfl, 0, Nat.zero_le _, rfl⟩
  | succ count ih =>
      obtain ⟨middle, hleads, hrest⟩ := htimes
      obtain ⟨hadvance, fewer, hle, hfewer⟩ := ih hrest
      rcases h start middle hleads with rfl | ⟨hlt, hsize⟩
      · exact ⟨hadvance, fewer, hle, hfewer⟩
      · refine ⟨.inr ?_, fewer + 1, ?_, middle, hleads, hfewer⟩ <;> omega

end Regex

/-! ## Expressions -/

namespace Regex

theorem Matches.advances (text : List Char) (regex : Regex) :
    Advances text.length (regex.Matches text) := by
  induction regex with
  | empty =>
      rintro start stop rfl
      exact .inl rfl
  | set chars =>
      rintro start stop ⟨rfl, c, hc, -⟩
      have hlt := (List.getElem?_eq_some_iff.1 hc).1
      right
      omega
  | look condition =>
      rintro start stop ⟨rfl, -⟩
      exact .inl rfl
  | seq first second ihFirst ihSecond =>
      rintro start stop ⟨middle, hfirst, hsecond⟩
      have hfirst := ihFirst start middle hfirst
      have hsecond := ihSecond middle stop hsecond
      omega
  | alt first second ihFirst ihSecond =>
      rintro start stop (hfirst | hsecond)
      · exact ihFirst start stop hfirst
      · exact ihSecond start stop hsecond
  | repetition body least most ih =>
      rintro start stop ⟨count, -, -, htimes⟩
      exact (ih.exists_times_le htimes).1
  | capture body ih => exact ih

def WellFormed : Regex → Prop
  | .empty | .set _ | .look _ => True
  | .seq first second | .alt first second => first.WellFormed ∧ second.WellFormed
  | .repetition body least most => body.WellFormed ∧ ∀ limit ∈ most, least ≤ limit
  | .capture body => body.WellFormed

def rounds (text : List Char) (least : Nat) : Option Nat → Nat
  | none => text.length + 1
  | some most => most - least

theorem matches_repetition_iff (text : List Char) {body : Regex} {least : Nat}
    {most : Option Nat} (h : ∀ limit ∈ most, least ≤ limit) (start stop : Nat) :
    (repetition body least most).Matches text start stop ↔
      ∃ middle, Times (body.Matches text) least start middle ∧
        ∃ more ≤ rounds text least most, Times (body.Matches text) more middle stop := by
  constructor
  · rintro ⟨count, hleast, hmost, htimes⟩
    obtain ⟨more, rfl⟩ := Nat.exists_eq_add_of_le hleast
    obtain ⟨middle, hfirst, hsecond⟩ := (times_add_iff least more start stop).1 htimes
    refine ⟨middle, hfirst, ?_⟩
    cases most with
    | none =>
        obtain ⟨hadvance, fewer, hle, hfewer⟩ :=
          (Matches.advances text body).exists_times_le hsecond
        refine ⟨fewer, ?_, hfewer⟩
        simp only [rounds]
        omega
    | some most =>
        have hlimit := hmost most rfl
        refine ⟨more, ?_, hsecond⟩
        simp only [rounds]
        omega
  · rintro ⟨middle, hfirst, more, hle, hsecond⟩
    refine ⟨least + more, Nat.le_add_right _ _, ?_,
      (times_add_iff least more start stop).2 ⟨middle, hfirst, hsecond⟩⟩
    rintro limit ⟨⟩
    have hlimit := h limit rfl
    simp only [rounds] at hle
    omega

theorem realizes_upTo {step : Transfer} (h : step.Realizes leads) (count : Nat) :
    Transfer.Realizes ⟨step.upTo count⟩
      fun start stop => ∃ fewer ≤ count, Times leads fewer start stop := by
  intro places stop
  dsimp only
  rw [Transfer.upTo_eq_times, h.orStay.times count places stop]
  simp only [times_orStay_iff]

theorem realizes_transfer (text : List Char) {regex : Regex} (h : regex.WellFormed) :
    (regex.transfer text).Realizes (regex.Matches text) := by
  induction regex with
  | empty =>
      intro places stop
      simp [transfer, Matches]
  | set chars =>
      intro places stop
      cases stop with
      | zero => simp [transfer, Matches]
      | succ stop =>
          have haccepted := Places.testBit_ofChars text (fun c => chars.has c.toNat) stop
          simp [transfer, Matches, haccepted]
  | look condition =>
      intro places stop
      have hheld := Places.testBit_conditions
        (fun before after => condition.holds before after) text stop
      simp [transfer, Matches, hheld]
  | seq first second ihFirst ihSecond => exact (ihFirst h.1).comp (ihSecond h.2)
  | alt first second ihFirst ihSecond =>
      intro places stop
      simp only [transfer, Matches, Nat.testBit_or, Bool.or_eq_true]
      rw [ihFirst h.1 places stop, ihSecond h.2 places stop, ← exists_or]
      simp only [and_or_left]
  | repetition body least most ih =>
      intro places stop
      have hbody := ih h.1
      simp only [matches_repetition_iff text h.2]
      rw [← (hbody.times least).comp (realizes_upTo hbody (rounds text least most)) places stop]
      cases most <;> rfl
  | capture body ih => exact ih h

theorem search_eq_true_iff {regex : Regex} (h : regex.WellFormed) (text : List Char) :
    regex.search text = true ↔ regex.FoundIn text := by
  have hstep := realizes_transfer text h (Places.all text)
  rw [search, bne_iff_ne]
  constructor
  · intro hne
    obtain ⟨stop, hstop⟩ := Nat.exists_testBit_of_ne_zero hne
    obtain ⟨start, hstart, hmatches⟩ := (hstep stop).1 hstop
    exact ⟨start, stop, (Places.testBit_all text start).1 hstart, hmatches⟩
  · rintro ⟨start, stop, hstart, hmatches⟩ hzero
    have hstop := (hstep stop).2 ⟨start, (Places.testBit_all text start).2 hstart, hmatches⟩
    rw [hzero, Nat.zero_testBit] at hstop
    cases hstop

end Regex

end CellGrading.Pattern
