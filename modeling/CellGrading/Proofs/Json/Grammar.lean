import CellGrading.Proofs.Json.Scalar

/-!
# Texts of documents

`Spells` relates a whole document to its texts: blanks may stand between any two
tokens, and strings and numbers may be written in several ways.  Whatever the way,
reading a text gives the document that it spells.
-/

namespace CellGrading.Json

open Text

/-! ## The grammar -/

def Gap (text : List Char) : Prop := ∀ c ∈ text, isJsonBlank c = true

instance : DecidablePred Gap := fun _ => decidable_of_iff _ List.all_eq_true

theorem gap_nil : Gap [] := by simp [Gap]

theorem Gap.append {gap gap' : List Char} (h : Gap gap) (h' : Gap gap') : Gap (gap ++ gap') := by
  intro c hc
  exact (List.mem_append.1 hc).elim (h c) (h' c)

inductive Separated {α : Type} (spells : α → List Char → Prop) : List α → List Char → Prop
  | one {item : α} {text gap : List Char} (hitem : spells item text) (hgap : Gap gap) :
      Separated spells [item] (text ++ gap)
  | more {item : α} {items : List α} {text gap gap' rest : List Char}
      (hitem : spells item text) (hgap : Gap gap) (hgap' : Gap gap')
      (hrest : Separated spells items rest) :
      Separated spells (item :: items) (text ++ (gap ++ ',' :: (gap' ++ rest)))

mutual

/-- The text is one of the document, without blanks around it. -/
inductive Spells : Document → List Char → Prop
  | null : Spells .null ['n', 'u', 'l', 'l']
  | trueName : Spells (.bool true) ['t', 'r', 'u', 'e']
  | falseName : Spells (.bool false) ['f', 'a', 'l', 's', 'e']
  | number {number : Number} {text : List Char} (h : SpellsNumber number text) :
      Spells (.number number) text
  | string {units : List Nat} {text : List Char} (h : SpellsUnits units text) :
      Spells (.string ⟨units, none⟩) ('"' :: (text ++ ['"']))
  | emptyArray {gap : List Char} (hgap : Gap gap) :
      Spells (.array [] none) ('[' :: (gap ++ [']']))
  | array {items : List Document} {gap text : List Char} (hgap : Gap gap)
      (hitems : Separated Spells items text) :
      Spells (.array items none) ('[' :: (gap ++ (text ++ [']'])))
  | emptyObject {gap : List Char} (hgap : Gap gap) :
      Spells (.object [] none) ('{' :: (gap ++ ['}']))
  | object {members : List (Document × Document)} {gap text : List Char} (hgap : Gap gap)
      (hmembers : Separated SpellsMember members text) :
      Spells (.object members none) ('{' :: (gap ++ (text ++ ['}'])))

inductive SpellsMember : Document × Document → List Char → Prop
  | intro {units : List Nat} {name gap gap' text : List Char} {value : Document}
      (hname : SpellsUnits units name) (hgap : Gap gap) (hgap' : Gap gap')
      (hvalue : Spells value text) :
      SpellsMember (.string ⟨units, none⟩, value)
        ('"' :: (name ++ '"' :: (gap ++ ':' :: (gap' ++ text))))

end

/-! ## Heads of texts -/

theorem skipBlanks_gap {gap rest : List Char} (hgap : Gap gap)
    (hrest : StopsAt isJsonBlank rest) : skipBlanks (gap ++ rest) = rest :=
  dropWhile_run hgap hrest

theorem stopsAt_gap {sort : Char → Bool} (hsort : ∀ c, isJsonBlank c = true → sort c = false)
    {gap rest : List Char} (hgap : Gap gap) (hrest : StopsAt sort rest) :
    StopsAt sort (gap ++ rest) := by
  cases gap with
  | nil => exact hrest
  | cons c gap =>
      rw [List.cons_append, stopsAt_cons]
      exact hsort c (hgap c (by simp))

theorem isNumberPart_of_isJsonBlank {c : Char} (h : isJsonBlank c = true) :
    isNumberPart c = false := by
  simp only [isJsonBlank, Bool.or_eq_true, beq_iff_eq] at h
  rcases h with ((rfl | rfl) | rfl) | rfl <;> rfl

theorem skipBlanks_gap_cons {gap : List Char} (hgap : Gap gap) {c : Char}
    (hc : isJsonBlank c = false) (rest : List Char) :
    skipBlanks (gap ++ c :: rest) = c :: rest :=
  skipBlanks_gap hgap ((stopsAt_cons ..).2 hc)

theorem stopsAt_number_gap {gap rest : List Char} (hgap : Gap gap)
    (hrest : StopsAt isNumberPart rest) : StopsAt isNumberPart (gap ++ rest) :=
  stopsAt_gap (fun _ hc => isNumberPart_of_isJsonBlank hc) hgap hrest

def isDelimiter (c : Char) : Bool := isJsonBlank c || c == ']' || c == '}'

theorem isDelimiter_of_isDigit {c : Char} (hc : c.isDigit = true) : isDelimiter c = false := by
  cases hdelimiter : isDelimiter c with
  | false => rfl
  | true =>
      simp only [isDelimiter, isJsonBlank, Bool.or_eq_true, beq_iff_eq] at hdelimiter
      rcases hdelimiter with ((((rfl | rfl) | rfl) | rfl) | rfl) | rfl <;> cases hc

theorem ne_of_isDelimiter {c d : Char} (hc : isDelimiter c = false) (hd : isDelimiter d = true) :
    c ≠ d := by
  rintro rfl
  exact absurd (hd.symm.trans hc) (by decide)

theorem stopsAt_of_isDelimiter {c : Char} (hc : isDelimiter c = false) (rest : List Char) :
    StopsAt isJsonBlank (c :: rest) := by
  rw [stopsAt_cons]
  simp only [isDelimiter, Bool.or_eq_false_iff] at hc
  exact hc.1.1

def Opens (text : List Char) : Prop := ∃ c rest, text = c :: rest ∧ isDelimiter c = false

theorem Opens.append {text : List Char} (h : Opens text) (rest : List Char) :
    Opens (text ++ rest) := by
  obtain ⟨c, behind, rfl, hc⟩ := h
  exact ⟨c, behind ++ rest, rfl, hc⟩

theorem Opens.skipBlanks_gap {text gap : List Char} (h : Opens text) (hgap : Gap gap) :
    skipBlanks (gap ++ text) = text := by
  obtain ⟨c, rest, rfl, hc⟩ := h
  exact Json.skipBlanks_gap hgap (stopsAt_of_isDelimiter hc rest)

theorem Spells.opens {document : Document} {text : List Char} (h : Spells document text) :
    Opens text := by
  cases h with
  | number h =>
      obtain ⟨c, rest, htext, hc⟩ := h.exists_head
      refine ⟨c, rest, htext, ?_⟩
      rcases hc with rfl | hc
      · rfl
      · exact isDelimiter_of_isDigit hc
  | _ => exact ⟨_, _, rfl, rfl⟩

theorem SpellsMember.opens {member : Document × Document} {text : List Char}
    (h : SpellsMember member text) : Opens text := by
  cases h with
  | intro => exact ⟨_, _, rfl, rfl⟩

theorem Separated.opens {α : Type} {spells : α → List Char → Prop}
    (hspells : ∀ {item text}, spells item text → Opens text) {items : List α}
    {text : List Char} (h : Separated spells items text) : Opens text := by
  cases h with
  | one hitem => exact (hspells hitem).append _
  | more hitem => exact (hspells hitem).append _

theorem Separated.exists_text {α : Type} {spells : α → List Char → Prop} {items : List α}
    {text : List Char} (h : Separated spells items text) :
    ∀ item ∈ items, ∃ text, spells item text := by
  induction h with
  | one hitem => exact List.forall_mem_singleton.2 ⟨_, hitem⟩
  | more hitem _ _ _ ih => exact List.forall_mem_cons.2 ⟨⟨_, hitem⟩, ih⟩

/-! ## Reading -/

theorem readName_self (value : Document) (name rest : List Char) :
    readName value name (name ++ rest) = (value, rest) := by
  induction name with
  | nil => simp [readName]
  | cons c name ih => simpa [readName] using ih

/-- What reading with so many calls at hand finds: a value takes two calls for each of
its characters. -/
structure Reads (fuel : Nat) : Prop where
  value {document : Document} {gap text rest : List Char} (h : Spells document text)
    (hgap : Gap gap) (hrest : StopsAt isNumberPart rest) (hfuel : 2 * text.length ≤ fuel) :
    readValue fuel (gap ++ (text ++ rest)) = (document, rest)
  items {items : List Document} {text : List Char} (rest : List Char)
    (h : Separated Spells items text) (hfuel : 2 * text.length < fuel) :
    readItems fuel (text ++ ']' :: rest) = (items, none, rest)
  members {members : List (Document × Document)} {gap text : List Char} (first : Bool)
    (rest : List Char) (hgap : Gap gap) (h : Separated SpellsMember members text)
    (hfuel : 2 * text.length < fuel) :
    readMembers fuel first (gap ++ (text ++ '}' :: rest)) = (members, none, rest)

section

variable {fuel : Nat} {rest : List Char}

theorem readValue_number {number : Number} {text : List Char} (h : SpellsNumber number text)
    (hrest : StopsAt isNumberPart rest) (hskip : skipBlanks (text ++ rest) = text ++ rest) :
    readValue (fuel + 1) (text ++ rest) = (.number number, rest) := by
  unfold readValue
  rw [hskip]
  cases h with
  | negative h => exact readNumber_spelled h hrest
  | positive h =>
      have hread := readNumber_spelled h hrest
      obtain ⟨c, behind, rfl, hc⟩ := h.exists_head
      have hne (d : Char) (hd : d.isDigit = false) : c ≠ d := by
        rintro rfl
        rw [hc] at hd
        cases hd
      simpa [hne 'n' rfl, hne 't' rfl, hne 'f' rfl, hne '"' rfl, hne '[' rfl, hne '{' rfl,
        hne '-' rfl, hc] using hread

theorem readValue_skip {gap text : List Char} (h : Opens text) (hgap : Gap gap) :
    readValue (fuel + 1) (gap ++ text) = readValue (fuel + 1) text := by
  have hself : skipBlanks text = text := h.skipBlanks_gap gap_nil
  unfold readValue
  rw [h.skipBlanks_gap hgap, hself]

theorem readValue_spelled (ih : Reads fuel) {document : Document} {text : List Char}
    (h : Spells document text) (hrest : StopsAt isNumberPart rest)
    (hfuel : 2 * text.length ≤ fuel + 1) :
    readValue (fuel + 1) (text ++ rest) = (document, rest) := by
  have hskip : skipBlanks (text ++ rest) = text ++ rest :=
    (h.opens.append rest).skipBlanks_gap gap_nil
  cases h with
  | number h => exact readValue_number h hrest hskip
  | null => exact readName_self .null ['u', 'l', 'l'] rest
  | trueName => exact readName_self (.bool true) ['r', 'u', 'e'] rest
  | falseName => exact readName_self (.bool false) ['a', 'l', 's', 'e'] rest
  | string h =>
      have hread := Quoted.read_units h rest
      unfold readValue
      rw [hskip]
      simp [hread]
  | emptyArray hgap =>
      have hend := skipBlanks_gap_cons hgap (c := ']') rfl rest
      unfold readValue
      rw [hskip]
      simp [hend]
  | emptyObject hgap =>
      have hend := skipBlanks_gap_cons hgap (c := '}') rfl rest
      unfold readValue
      rw [hskip]
      simp [hend]
  | @array items gap text hgap hitems =>
      have hopens := (hitems.opens Spells.opens).append (']' :: rest)
      have hinside := hopens.skipBlanks_gap hgap
      have hread := ih.items rest hitems (by simp at hfuel; omega)
      obtain ⟨c, behind, htext, hc⟩ := hopens
      have hend : c ≠ ']' := ne_of_isDelimiter hc rfl
      unfold readValue
      rw [hskip]
      simp_all
  | @object members gap text hgap hmembers =>
      have hopens := (hmembers.opens SpellsMember.opens).append ('}' :: rest)
      have hinside := hopens.skipBlanks_gap hgap
      have hread := ih.members true rest gap_nil hmembers (by simp at hfuel; omega)
      obtain ⟨c, behind, htext, hc⟩ := hopens
      have hend : c ≠ '}' := ne_of_isDelimiter hc rfl
      unfold readValue
      rw [hskip]
      simp_all

theorem readItems_spelled (ih : Reads fuel) {items : List Document} {text : List Char}
    (h : Separated Spells items text) (hfuel : 2 * text.length < fuel + 1) :
    readItems (fuel + 1) (text ++ ']' :: rest) = (items, none, rest) := by
  cases h with
  | @one item text gap hitem hgap =>
      have hstop : StopsAt isNumberPart (gap ++ ']' :: rest) :=
        stopsAt_number_gap hgap (by simp; rfl)
      have hread := ih.value hitem gap_nil hstop (by simp at hfuel; omega)
      have hend := skipBlanks_gap_cons hgap (c := ']') rfl rest
      unfold readItems
      simp_all
  | @more item items text gap gap' others hitem hgap hgap' hothers =>
      have hstop : StopsAt isNumberPart (gap ++ ',' :: (gap' ++ (others ++ ']' :: rest))) :=
        stopsAt_number_gap hgap (by simp; rfl)
      have hread := ih.value hitem gap_nil hstop (by simp at hfuel; omega)
      have hcomma := skipBlanks_gap_cons hgap (c := ',') rfl (gap' ++ (others ++ ']' :: rest))
      have hmore := ih.items rest hothers (by simp at hfuel; omega)
      have hopens := (hothers.opens Spells.opens).append (']' :: rest)
      have hnext := hopens.skipBlanks_gap hgap'
      obtain ⟨c, behind, htext, hc⟩ := hopens
      have hend : c ≠ ']' := ne_of_isDelimiter hc rfl
      unfold readItems
      simp_all

theorem readMember_spelled (ih : Reads fuel) {member : Document × Document} {text : List Char}
    (h : SpellsMember member text) (first : Bool) (hrest : StopsAt isNumberPart rest)
    (hfuel : 2 * text.length ≤ fuel) :
    ∃ behind inside, readKeyWith (readValue fuel) first (text ++ rest) = (member.1, behind) ∧
      skipBlanks behind = ':' :: inside ∧ readValue fuel inside = (member.2, rest) := by
  cases h with
  | @intro units name gap gap' text value hname hgap hgap' hvalue =>
      have hkey := Quoted.read_units hname (gap ++ ':' :: (gap' ++ (text ++ rest)))
      have hcolon := skipBlanks_gap_cons hgap (c := ':') rfl (gap' ++ (text ++ rest))
      have hread := ih.value hvalue hgap' hrest (by simp at hfuel; omega)
      exact ⟨_, _, by simp [readKeyWith, hkey], hcolon, hread⟩

theorem readMembers_spelled (ih : Reads fuel) {members : List (Document × Document)}
    {gap text : List Char} (first : Bool) (hgap : Gap gap)
    (h : Separated SpellsMember members text) (hfuel : 2 * text.length < fuel + 1) :
    readMembers (fuel + 1) first (gap ++ (text ++ '}' :: rest)) = (members, none, rest) := by
  have hskip := ((h.opens SpellsMember.opens).append ('}' :: rest)).skipBlanks_gap hgap
  unfold readMembers
  rw [hskip]
  cases h with
  | @one member text gap' hmember hgap' =>
      have hstop : StopsAt isNumberPart (gap' ++ '}' :: rest) :=
        stopsAt_number_gap hgap' (by simp; rfl)
      obtain ⟨behind, inside, hkey, hcolon, hread⟩ :=
        readMember_spelled ih hmember first hstop (by simp at hfuel; omega)
      have hend := skipBlanks_gap_cons hgap' (c := '}') rfl rest
      simp_all
  | @more member members text gap' gap'' others hmember hgap' hgap'' hothers =>
      have hstop : StopsAt isNumberPart (gap' ++ ',' :: (gap'' ++ (others ++ '}' :: rest))) :=
        stopsAt_number_gap hgap' (by simp; rfl)
      obtain ⟨behind, inside, hkey, hcolon, hread⟩ :=
        readMember_spelled ih hmember first hstop (by simp at hfuel; omega)
      have hcomma := skipBlanks_gap_cons hgap' (c := ',') rfl (gap'' ++ (others ++ '}' :: rest))
      have hmore := ih.members false rest hgap'' hothers (by simp at hfuel; omega)
      simp_all

end

theorem reads (fuel : Nat) : Reads fuel := by
  induction fuel with
  | zero =>
      constructor
      · intro document gap text rest h _ _ hfuel
        obtain ⟨c, behind, rfl, -⟩ := h.opens
        simp at hfuel
      · intro items text rest _ hfuel
        omega
      · intro members gap text first rest _ _ hfuel
        omega
  | succ fuel ih =>
      constructor
      · intro document gap text rest h hgap hrest hfuel
        rw [readValue_skip (h.opens.append rest) hgap]
        exact readValue_spelled ih h hrest hfuel
      · exact fun rest => readItems_spelled ih
      · exact fun first rest => readMembers_spelled ih first

/-! ## Whole texts -/

/-- The text is one of the document, with blanks around it. -/
def Document.WrittenAs (document : Document) (text : List Char) : Prop :=
  ∃ before inside after, text = before ++ (inside ++ after) ∧
    Gap before ∧ Spells document inside ∧ Gap after

theorem Spells.writtenAs {document : Document} {text after : List Char} (h : Spells document text)
    (hafter : Gap after) : document.WrittenAs (text ++ after) :=
  ⟨[], text, after, rfl, gap_nil, h, hafter⟩

theorem Document.WrittenAs.read {document : Document} {text : List Char}
    (h : document.WrittenAs text) : Document.read text = (document, none) := by
  obtain ⟨before, inside, after, rfl, hbefore, hinside, hafter⟩ := h
  have hstop : StopsAt isNumberPart after := by
    simpa using stopsAt_number_gap hafter (stopsAt_nil _)
  have hend : skipBlanks after = [] := by
    simpa using skipBlanks_gap hafter (stopsAt_nil _)
  have hread := (reads (2 * (before ++ (inside ++ after)).length + 2)).value hinside hbefore hstop
    (by simp; omega)
  simp only [Document.read, hread, hend, List.isEmpty_nil, if_true]

end CellGrading.Json
