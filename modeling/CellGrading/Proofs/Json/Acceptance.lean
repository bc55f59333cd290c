import CellGrading.Proofs.Json.Decoding

/-!
# Texts that are read without a fault

The other direction of reading: where the reader finds no fault, the text is one of the
document that it found.  So a text is read as a document without a fault exactly when it is
one of the texts of that document, and the grammar says all that the reader accepts.
-/

namespace CellGrading.Json

open Text

/-! ## Strings and names -/

namespace Quoted

theorem cons_eq_iff {unit : Nat} {result : Quoted × List Char} {units : List Nat}
    {rest : List Char} :
    cons unit result = (⟨units, none⟩, rest) ↔
      ∃ others, units = unit :: others ∧ result = (⟨others, none⟩, rest) := by
  obtain ⟨⟨others, fault⟩, behind⟩ := result
  simp [cons, eq_comm, and_assoc]

theorem spells_of_read {text rest : List Char} {units : List Nat}
    (h : read text = (⟨units, none⟩, rest)) :
    ∃ inside, SpellsUnits units inside ∧ text = inside ++ '"' :: rest := by
  fun_induction read text generalizing units with
  | case2 =>
      cases h
      exact ⟨[], .nil, rfl⟩
  | case4 first second third fourth behind unit hunit hsize ih =>
      obtain ⟨others, rfl, hothers⟩ := cons_eq_iff.1 h
      obtain ⟨inside, hinside, rfl⟩ := ih hothers
      exact ⟨_, .cons (.code hunit) hinside, rfl⟩
  | case7 letter behind hletter c hc ih =>
      obtain ⟨others, rfl, hothers⟩ := cons_eq_iff.1 h
      obtain ⟨inside, hinside, rfl⟩ := ih hothers
      exact ⟨_, .cons (.escaped hc) hinside, rfl⟩
  | case11 c behind hquote _ hescape hlast hcontrol ih =>
      obtain ⟨others, rfl, hothers⟩ := cons_eq_iff.1 h
      obtain ⟨inside, hinside, rfl⟩ := ih hothers
      have hne : c ≠ '\\' := by
        rintro rfl
        cases hbehind : inside ++ '"' :: rest with
        | nil => exact hlast rfl hbehind
        | cons d others => exact hescape d others rfl hbehind
      exact ⟨_, .cons (.plain (Nat.not_lt.1 hcontrol) hquote hne) hinside, rfl⟩
  | _ => simp [stopped] at h

end Quoted

theorem eq_append_of_readName {value document : Document} {name text rest : List Char}
    (h : readName value name text = (document, rest)) (hfault : document.fault? = none) :
    document = value ∧ text = name ++ rest := by
  fun_induction readName value name text with
  | case1 =>
      cases h
      exact ⟨rfl, rfl⟩
  | case3 name c behind ih =>
      obtain ⟨hdocument, rfl⟩ := ih h
      exact ⟨hdocument, rfl⟩
  | _ =>
      cases h
      simp [Document.fault?] at hfault

/-! ## Numbers -/

section

variable {negative : Bool} {whole fraction text rest : List Char} {document : Document}

theorem digits_takeWhile (hnil : text.takeWhile Char.isDigit = [] → text = [] → False)
    (hcons : ∀ c others, text.takeWhile Char.isDigit = [] → text = c :: others → False) :
    Digits (text.takeWhile Char.isDigit) := by
  refine ⟨fun hnone => ?_, fun _ hc => List.mem_takeWhile_imp hc⟩
  cases text with
  | nil => exact hnil hnone rfl
  | cons c others => exact hcons c others hnone rfl

theorem spellsExponent_of_mark {c : Char} (hmark : c = 'e' ∨ c = 'E') {minus : Bool}
    {behind digits : List Char}
    (hsign : (match behind with
      | '+' :: rest => (false, rest)
      | '-' :: rest => (true, rest)
      | rest => (false, rest)) = (minus, digits ++ rest)) (hdigits : Digits digits) :
    ∃ inside, SpellsExponent (some (minus, digits)) inside ∧ c :: behind = inside ++ rest := by
  split at hsign
  · cases hsign
    exact ⟨_, .plus hmark hdigits, rfl⟩
  · cases hsign
    exact ⟨_, .minus hmark hdigits, rfl⟩
  · cases hsign
    exact ⟨_, .unsigned hmark hdigits, rfl⟩

theorem spells_of_readExponent
    (h : readExponent negative whole fraction text = (document, rest))
    (hfault : document.fault? = none) :
    ∃ exponent inside, document = .number ⟨negative, whole, fraction, exponent⟩ ∧
      SpellsExponent exponent inside ∧ text = inside ++ rest := by
  fun_cases readExponent negative whole fraction text with
  | case1 =>
      cases h
      exact ⟨none, [], rfl, .none, rfl⟩
  | case2 c behind hmark minus hsign hnil =>
      simp only [readExponent, if_pos hmark, hsign, hnil] at h
      cases h
      simp [Document.fault?] at hfault
  | case3 c behind hmark minus d others hsign hnil =>
      simp only [readExponent, if_pos hmark, hsign, hnil] at h
      cases h
      simp [Document.fault?] at hfault
  | case4 c behind hmark minus others hsign hnil hcons =>
      simp only [readExponent, if_pos hmark, hsign] at h
      have hdigits := digits_takeWhile hnil hcons
      cases h
      rw [← List.takeWhile_append_dropWhile (p := Char.isDigit) (l := others)] at hsign
      obtain ⟨inside, hinside, htext⟩ :=
        spellsExponent_of_mark hmark hsign hdigits
      exact ⟨_, inside, rfl, hinside, htext⟩
  | case5 c behind hmark =>
      simp only [readExponent, if_neg hmark] at h
      cases h
      exact ⟨none, [], rfl, .none, rfl⟩

theorem spells_of_readFraction (h : readFraction negative whole text = (document, rest))
    (hfault : document.fault? = none) :
    ∃ fraction exponent fractionText exponentText,
      document = .number ⟨negative, whole, fraction, exponent⟩ ∧
      SpellsFraction fraction fractionText ∧ SpellsExponent exponent exponentText ∧
      text = fractionText ++ (exponentText ++ rest) := by
  fun_cases readFraction negative whole text with
  | case1 hnil =>
      simp only [readFraction, hnil] at h
      cases h
      simp [Document.fault?] at hfault
  | case2 c behind hnil =>
      simp only [readFraction, hnil] at h
      cases h
      simp [Document.fault?] at hfault
  | case3 behind hnil hcons =>
      simp only [readFraction] at h
      obtain ⟨exponent, inside, rfl, hexponent, hrest⟩ := spells_of_readExponent h hfault
      refine ⟨_, exponent, _, inside, rfl, .some (digits_takeWhile hnil hcons), hexponent, ?_⟩
      rw [← hrest, List.cons_append, List.takeWhile_append_dropWhile]
  | case4 text hpoint =>
      rw [readFraction] at h
      · obtain ⟨exponent, inside, rfl, hexponent, hrest⟩ := spells_of_readExponent h hfault
        exact ⟨[], exponent, [], inside, rfl, .none, hexponent, hrest⟩
      · exact hpoint

theorem spells_of_readNumber (h : readNumber negative text = (document, rest))
    (hfault : document.fault? = none) :
    ∃ number inside, document = .number number ∧ SpellsUnsigned negative number inside ∧
      text = inside ++ rest := by
  fun_cases readNumber negative text with
  | case1 hnil =>
      simp only [readNumber, hnil] at h
      cases h
      simp [Document.fault?] at hfault
  | case2 c behind hnil =>
      simp only [readNumber, hnil] at h
      cases h
      simp [Document.fault?] at hfault
  | case3 text c others hzero =>
      simp only [readNumber, hzero] at h
      cases h
      simp [Document.fault?] at hfault
  | case4 text hnil hcons hzero =>
      simp only [readNumber] at h
      obtain ⟨fraction, exponent, fractionText, exponentText, rfl, hfraction, hexponent, hrest⟩ :=
        spells_of_readFraction h hfault
      have hlone : ∀ others, text.takeWhile Char.isDigit = '0' :: others → others = [] := by
        intro others hothers
        cases others with
        | nil => rfl
        | cons d others => exact (hzero d others hothers).elim
      refine ⟨_, _, rfl, .intro (digits_takeWhile hnil hcons) hlone hfraction hexponent, ?_⟩
      rw [List.append_assoc, List.append_assoc, ← hrest, List.takeWhile_append_dropWhile]

end

/-! ## Values -/

theorem exists_gap {text rest : List Char} (h : skipBlanks text = rest) :
    ∃ gap, Gap gap ∧ text = gap ++ rest := by
  subst h
  exact ⟨text.takeWhile isJsonBlank, fun _ hc => List.mem_takeWhile_imp hc,
    List.takeWhile_append_dropWhile.symm⟩

/-- What reading with so many calls at hand accepts. -/
structure Accepts (fuel : Nat) : Prop where
  value {document : Document} {text rest : List Char}
    (h : readValue fuel text = (document, rest)) (hfault : document.fault? = none) :
    ∃ gap inside, Gap gap ∧ Spells document inside ∧ text = gap ++ (inside ++ rest)
  items {items : List Document} {text rest : List Char}
    (h : readItems fuel text = (items, none, rest))
    (hfault : Document.faultOfItems? items = none) :
    ∃ gap inside, Gap gap ∧ Separated Spells items inside ∧
      text = gap ++ (inside ++ ']' :: rest)
  members {members : List (Document × Document)} {first : Bool} {text rest : List Char}
    (h : readMembers fuel first text = (members, none, rest))
    (hfault : Document.faultOfMembers? members = none) :
    ∃ gap inside, Gap gap ∧ Separated SpellsMember members inside ∧
      text = gap ++ (inside ++ '}' :: rest)

section

variable {fuel : Nat} {text rest : List Char}

theorem accepts_readValue (ih : Accepts fuel) {document : Document}
    (h : readValue (fuel + 1) text = (document, rest)) (hfault : document.fault? = none) :
    ∃ gap inside, Gap gap ∧ Spells document inside ∧ text = gap ++ (inside ++ rest) := by
  suffices hinside : ∃ inside, Spells document inside ∧ skipBlanks text = inside ++ rest by
    obtain ⟨inside, hspells, hskip⟩ := hinside
    obtain ⟨gap, hgap, htext⟩ := exists_gap hskip
    exact ⟨gap, inside, hgap, hspells, htext⟩
  unfold readValue at h
  split at h
  · cases h
    simp [Document.fault?] at hfault
  · next behind hskip =>
    obtain ⟨rfl, rfl⟩ := eq_append_of_readName h hfault
    exact ⟨_, .null, hskip⟩
  · next behind hskip =>
    obtain ⟨rfl, rfl⟩ := eq_append_of_readName h hfault
    exact ⟨_, .trueName, hskip⟩
  · next behind hskip =>
    obtain ⟨rfl, rfl⟩ := eq_append_of_readName h hfault
    exact ⟨_, .falseName, hskip⟩
  · next behind hskip =>
    generalize hread : Quoted.read behind = result at h
    obtain ⟨⟨units, fault⟩, others⟩ := result
    cases h
    obtain rfl : fault = none := hfault
    obtain ⟨inside, hunits, rfl⟩ := Quoted.spells_of_read hread
    exact ⟨_, .string hunits, by simp [hskip]⟩
  · next behind hskip =>
    split at h
    · cases h
      simp [Document.fault?, Document.faultOfItems?] at hfault
    · next hclose =>
      cases h
      obtain ⟨gap, hgap, rfl⟩ := exists_gap hclose
      exact ⟨_, .emptyArray hgap, by simp [hskip]⟩
    · generalize hread : readItems fuel (skipBlanks behind) = result at h
      obtain ⟨items, fault, others⟩ := result
      cases h
      obtain ⟨hitems, rfl⟩ := Option.or_eq_none_iff.1 hfault
      obtain ⟨gap', inside, hgap', hinside, hbehind⟩ := ih.items hread hitems
      obtain ⟨gap, hgap, rfl⟩ := exists_gap hbehind
      exact ⟨_, .array (hgap.append hgap') hinside, by simp [hskip]⟩
  · next behind hskip =>
    split at h
    · cases h
      simp [Document.fault?, Document.faultOfMembers?] at hfault
    · next hclose =>
      cases h
      obtain ⟨gap, hgap, rfl⟩ := exists_gap hclose
      exact ⟨_, .emptyObject hgap, by simp [hskip]⟩
    · generalize hread : readMembers fuel true (skipBlanks behind) = result at h
      obtain ⟨members, fault, others⟩ := result
      cases h
      obtain ⟨hmembers, rfl⟩ := Option.or_eq_none_iff.1 hfault
      obtain ⟨gap', inside, hgap', hinside, hbehind⟩ := ih.members hread hmembers
      obtain ⟨gap, hgap, rfl⟩ := exists_gap hbehind
      exact ⟨_, .object (hgap.append hgap') hinside, by simp [hskip]⟩
  · next behind hskip =>
    obtain ⟨number, inside, rfl, hnumber, rfl⟩ := spells_of_readNumber h hfault
    exact ⟨_, .number (.negative hnumber), hskip⟩
  · next c behind _ _ _ _ _ _ _ hskip =>
    split at h
    · obtain ⟨number, inside, rfl, hnumber, hbehind⟩ := spells_of_readNumber h hfault
      exact ⟨_, .number (.positive hnumber), hskip.trans hbehind⟩
    · cases h
      simp [Document.fault?] at hfault

theorem accepts_readItems (ih : Accepts fuel) {items : List Document}
    (h : readItems (fuel + 1) text = (items, none, rest))
    (hfault : Document.faultOfItems? items = none) :
    ∃ gap inside, Gap gap ∧ Separated Spells items inside ∧
      text = gap ++ (inside ++ ']' :: rest) := by
  unfold readItems at h
  generalize hread : readValue fuel text = result at h
  obtain ⟨item, behind⟩ := result
  dsimp only at h
  split at h
  · cases h
  · next hclose =>
    cases h
    obtain ⟨hitem, -⟩ := Option.or_eq_none_iff.1 hfault
    obtain ⟨gap, inside, hgap, hinside, rfl⟩ := ih.value hread hitem
    obtain ⟨gap', hgap', rfl⟩ := exists_gap hclose
    exact ⟨gap, _, hgap, .one hinside hgap', by simp⟩
  · next others hcomma =>
    split at h
    · cases h
      simp [Document.faultOfItems?, Document.fault?] at hfault
    · generalize hmore : readItems fuel (skipBlanks others) = result at h
      obtain ⟨more, fault, last⟩ := result
      cases h
      obtain ⟨hitem, hitems⟩ := Option.or_eq_none_iff.1 hfault
      obtain ⟨gap, inside, hgap, hinside, rfl⟩ := ih.value hread hitem
      obtain ⟨gap', hgap', rfl⟩ := exists_gap hcomma
      obtain ⟨after, tail, hafter, htail, hothers⟩ := ih.items hmore hitems
      obtain ⟨gap'', hgap'', rfl⟩ := exists_gap hothers
      exact ⟨gap, _, hgap, .more hinside hgap' (hgap''.append hafter) htail, by simp⟩
  · cases h

theorem accepts_readKeyWith (ih : Accepts fuel) {first : Bool} {units : List Nat}
    (h : readKeyWith (readValue fuel) first text = (.string ⟨units, none⟩, rest)) :
    ∃ gap name, Gap gap ∧ SpellsUnits units name ∧
      text = gap ++ '"' :: (name ++ '"' :: rest) := by
  unfold readKeyWith at h
  split at h
  · cases h
  · next behind =>
    generalize hread : Quoted.read behind = result at h
    obtain ⟨quoted, others⟩ := result
    cases h
    obtain ⟨name, hunits, rfl⟩ := Quoted.spells_of_read hread
    exact ⟨[], name, gap_nil, hunits, rfl⟩
  · split at h
    · obtain ⟨gap, inside, hgap, hinside, rfl⟩ := ih.value h rfl
      cases hinside with
      | string hunits => exact ⟨gap, _, hgap, hunits, by simp⟩
    · cases h

theorem accepts_member (ih : Accepts fuel) {first : Bool} {units : List Nat} {value : Document}
    {behind others : List Char}
    (hkey : readKeyWith (readValue fuel) first (skipBlanks text) =
      (.string ⟨units, none⟩, behind))
    (h : (match skipBlanks behind with
      | [] => (.broken .truncated, [])
      | ':' :: rest => readValue fuel rest
      | _ => (.broken .malformed, [])) = (value, rest)) (hfault : value.fault? = none)
    (hrest : skipBlanks rest = others) :
    ∃ gap inside gap', Gap gap ∧ SpellsMember (.string ⟨units, none⟩, value) inside ∧
      Gap gap' ∧ text = gap ++ (inside ++ (gap' ++ others)) := by
  obtain ⟨gap', name, hgap', hunits, htext⟩ := accepts_readKeyWith ih hkey
  obtain ⟨gap, hgap, rfl⟩ := exists_gap htext
  split at h
  · cases h
    simp [Document.fault?] at hfault
  · next inner hcolon =>
    obtain ⟨last, hlast, rfl⟩ := exists_gap hrest
    obtain ⟨after, inside, hafter, hvalue, rfl⟩ := ih.value h hfault
    obtain ⟨before, hbefore, rfl⟩ := exists_gap hcolon
    exact ⟨_, _, last, hgap.append hgap', .intro hunits hbefore hafter hvalue, hlast, by simp⟩
  · cases h
    simp [Document.fault?] at hfault

theorem exists_units_of_faultOfMembers? {members : List (Document × Document)}
    {key value : Document} (h : Document.faultOfMembers? ((key, value) :: members) = none) :
    (∃ units, key = .string ⟨units, none⟩) ∧ value.fault? = none ∧
      Document.faultOfMembers? members = none := by
  obtain ⟨hkey, h⟩ := Option.or_eq_none_iff.1 h
  refine ⟨?_, Option.or_eq_none_iff.1 h⟩
  cases key with
  | string quoted =>
      obtain ⟨units, fault⟩ := quoted
      obtain rfl : fault = none := hkey
      exact ⟨units, rfl⟩
  | _ => cases hkey

theorem accepts_readMembers (ih : Accepts fuel) {members : List (Document × Document)}
    {first : Bool} (h : readMembers (fuel + 1) first text = (members, none, rest))
    (hfault : Document.faultOfMembers? members = none) :
    ∃ gap inside, Gap gap ∧ Separated SpellsMember members inside ∧
      text = gap ++ (inside ++ '}' :: rest) := by
  unfold readMembers at h
  generalize hkey : readKeyWith (readValue fuel) first (skipBlanks text) = result at h
  obtain ⟨key, behind⟩ := result
  dsimp only at h
  split at h
  · cases h
  · next hclose =>
    cases h
    obtain ⟨⟨units, rfl⟩, hvalue, -⟩ := exists_units_of_faultOfMembers? hfault
    obtain ⟨gap, inside, gap', hgap, hmember, hgap', rfl⟩ :=
      accepts_member ih hkey rfl hvalue hclose
    exact ⟨gap, _, hgap, .one hmember hgap', by simp⟩
  · next others hcomma =>
    generalize hmore : readMembers fuel false others = result at h
    obtain ⟨more, fault, last⟩ := result
    cases h
    obtain ⟨⟨units, rfl⟩, hvalue, hmembers⟩ := exists_units_of_faultOfMembers? hfault
    obtain ⟨gap'', tail, hgap'', htail, rfl⟩ := ih.members hmore hmembers
    obtain ⟨gap, inside, gap', hgap, hmember, hgap', rfl⟩ :=
      accepts_member ih hkey rfl hvalue hcomma
    exact ⟨gap, _, hgap, .more hmember hgap' hgap'' htail, by simp⟩
  · cases h

end

theorem accepts (fuel : Nat) : Accepts fuel := by
  induction fuel with
  | zero =>
      constructor
      · intro document text rest h hfault
        cases h
        simp [Document.fault?] at hfault
      · intro items text rest h
        cases h
      · intro members first text rest h
        cases h
  | succ fuel ih =>
      constructor
      · exact accepts_readValue ih
      · exact accepts_readItems ih
      · exact accepts_readMembers ih

/-! ## Whole texts -/

theorem Document.writtenAs_iff {document : Document} {text : List Char} :
    document.WrittenAs text ↔
      Document.read text = (document, none) ∧ document.fault? = none := by
  constructor
  · intro h
    exact ⟨h.read, h.fault?⟩
  · rintro ⟨hread, hfault⟩
    unfold Document.read at hread
    generalize hvalue : readValue (2 * text.length + 2) text = result at hread
    obtain ⟨found, behind⟩ := result
    obtain ⟨rfl, htrailing⟩ := Prod.mk.inj hread
    obtain ⟨gap, inside, hgap, hspells, rfl⟩ := (accepts _).value hvalue hfault
    have hend : skipBlanks behind = [] := by
      by_contra hne
      simp [hne] at htrailing
    obtain ⟨gap', hgap', rfl⟩ := exists_gap hend
    exact ⟨gap, inside, gap' ++ [], rfl, hgap, hspells, by rwa [List.append_nil]⟩

end CellGrading.Json
