import CellGrading.Proofs.Decimal.Spelling
import CellGrading.Spec.Shape

/-!
# The grammar of cells

A form is a text of one of the four shapes, taken apart to the last blank.
`Form.chars` puts it together again.  Which of the shapes a text has shows in
its first two characters, and a text of a shape comes apart in one way only.
-/

namespace CellGrading

open Text

def IsName (name : List Char) : Prop :=
  ∃ first rest, name = first :: rest ∧ first.isAlpha = true ∧ ∀ c ∈ rest, isWord c = true

instance : DecidablePred IsName
  | [] => .isFalse (by simp [IsName])
  | first :: rest =>
      decidable_of_iff ((first.isAlpha && rest.all isWord) = true) (by simp [IsName])

/-- A text of a shape in its parts.  The gaps are the blanks between the others. -/
inductive Form where
  | capture (name : List Char)
  | regex (pattern : List Char)
  | interval (low gap₁ : List Char) (lowOp : BoundOp) (gap₂ gap₃ : List Char)
      (highOp : BoundOp) (gap₄ high : List Char)
  | comparison (negated : Bool) (comparator : Shape.Comparator) (gap operand : List Char)
  deriving DecidableEq

namespace Form

def mark (negated : Bool) : List Char := if negated then ['!'] else []

def chars : Form → List Char
  | .capture name => '$' :: (name ++ ['='])
  | .regex pattern => '=' :: '~' :: '/' :: (pattern ++ ['/'])
  | .interval low gap₁ lowOp gap₂ gap₃ highOp gap₄ high =>
      low ++ (gap₁ ++ (lowOp.symbol.toList ++ (gap₂ ++
        '_' :: (gap₃ ++ (highOp.symbol.toList ++ (gap₄ ++ high))))))
  | .comparison negated comparator gap operand =>
      mark negated ++ (comparator.symbol.toList ++ (gap ++ operand))

def WellFormed : Form → Prop
  | .capture name => IsName name
  | .regex _ => True
  | .interval low gap₁ _ gap₂ gap₃ _ gap₄ high =>
      Numeral.IsLiteral low ∧ Numeral.IsLiteral high ∧
        Blanks gap₁ ∧ Blanks gap₂ ∧ Blanks gap₃ ∧ Blanks gap₄
  | .comparison _ _ gap operand => Blanks gap ∧ Numeral.IsLiteral operand

instance : DecidablePred WellFormed
  | .capture name => inferInstanceAs (Decidable (IsName name))
  | .regex _ => .isTrue trivial
  | .interval .. => inferInstanceAs (Decidable (_ ∧ _))
  | .comparison .. => inferInstanceAs (Decidable (_ ∧ _))

/-! ## Telling the shapes apart -/

def isOpening (c : Char) : Bool := isBlank c || Numeral.isPart c

theorem isOpening_of_isBlank {c : Char} (h : isBlank c = true) : isOpening c = true := by
  simp [isOpening, h]

theorem isOpening_of_isPart {c : Char} (h : Numeral.isPart c = true) : isOpening c = true := by
  simp [isOpening, h]

theorem exists_isOpening {gap literal : List Char} (hgap : Blanks gap)
    (hliteral : Numeral.IsLiteral literal) :
    ∃ c rest, gap ++ literal = c :: rest ∧ isOpening c = true := by
  cases gap with
  | nil =>
      cases literal with
      | nil => exact absurd rfl hliteral.ne_nil
      | cons c rest =>
          exact ⟨c, rest, rfl, isOpening_of_isPart (hliteral.isPart c (by simp))⟩
  | cons c rest =>
      exact ⟨c, rest ++ literal, rfl, isOpening_of_isBlank (hgap c (by simp))⟩

inductive Kind where
  | capture
  | regex
  | interval
  | comparison
  deriving DecidableEq, Repr

def kind : Form → Kind
  | .capture _ => .capture
  | .regex _ => .regex
  | .interval .. => .interval
  | .comparison .. => .comparison

/-- The only shape that a text can have, by its first two characters. -/
def kindOfText : List Char → Kind
  | '$' :: _ => .capture
  | '=' :: '~' :: _ => .regex
  | c :: _ => if Numeral.isPart c then .interval else .comparison
  | [] => .comparison

theorem kindOfText_of_isPart {c : Char} (h : Numeral.isPart c = true) (rest : List Char) :
    kindOfText (c :: rest) = .interval := by
  unfold kindOfText
  split
  · next heq => cases heq; simp [Numeral.isPart] at h
  · next heq => cases heq; simp [Numeral.isPart] at h
  · next heq => cases heq; simp [h]
  · next heq => cases heq

theorem kindOfText_equals {c : Char} (h : c ≠ '~') (rest : List Char) :
    kindOfText ('=' :: c :: rest) = .comparison := by
  unfold kindOfText
  split
  · next heq => cases heq
  · next heq => cases heq; exact absurd rfl h
  · next heq => cases heq; rfl
  · next heq => cases heq

theorem kindOfText_chars {form : Form} (h : form.WellFormed) :
    kindOfText form.chars = form.kind := by
  cases form with
  | capture name => rfl
  | regex pattern => rfl
  | interval low gap₁ lowOp gap₂ gap₃ highOp gap₄ high =>
      have hlow : Numeral.IsLiteral low := h.1
      cases hc : low with
      | nil => exact absurd hc hlow.ne_nil
      | cons c rest => exact kindOfText_of_isPart (hlow.isPart c (by simp [hc])) _
  | comparison negated comparator gap operand =>
      obtain ⟨c, rest, hopen, hc⟩ := exists_isOpening h.1 h.2
      have hne : c ≠ '~' := by
        rintro rfl
        exact absurd hc (by decide)
      cases negated with
      | true => rfl
      | false =>
          cases comparator with
          | rounded => rfl
          | exact op =>
              cases op with
              | lt => rfl
              | le => rfl
              | gt => rfl
              | ge => rfl
              | eq =>
                  change kindOfText ('=' :: (gap ++ operand)) = _
                  rw [hopen]
                  exact kindOfText_equals hne rest

theorem trimmed_chars {form : Form} (h : form.WellFormed) : Trimmed form.chars := by
  cases form with
  | capture name =>
      exact trimmed_append name (show Trimmed ['$'] by decide) (by simp) (by decide) (by simp)
  | regex pattern =>
      exact trimmed_append pattern (show Trimmed ['=', '~', '/'] by decide) (by simp)
        (by decide) (by simp)
  | interval low gap₁ lowOp gap₂ gap₃ highOp gap₄ high =>
      have hmiddle := trimmed_append
        (gap₁ ++ (lowOp.symbol.toList ++ (gap₂ ++ '_' :: (gap₃ ++
          (highOp.symbol.toList ++ gap₄))))) h.1.trimmed h.1.ne_nil h.2.1.trimmed h.2.1.ne_nil
      simpa [chars] using hmiddle
  | comparison negated comparator gap operand =>
      have hhead : Trimmed (mark negated ++ comparator.symbol.toList) ∧
          mark negated ++ comparator.symbol.toList ≠ [] := by
        cases comparator with
        | rounded => cases negated <;> decide
        | exact op => cases negated <;> cases op <;> decide
      have hmiddle := trimmed_append gap hhead.1 hhead.2 h.2.trimmed h.2.ne_nil
      simpa [chars] using hmiddle

/-! ## Taking a text apart -/

theorem stopsAt_gap {sort : Char → Bool} (hsort : ∀ c, isBlank c = true → sort c = false)
    {gap rest : List Char} (hgap : Blanks gap) (hrest : StopsAt sort rest) :
    StopsAt sort (gap ++ rest) := by
  cases gap with
  | nil => exact hrest
  | cons c gap => simpa using hsort c (hgap c (by simp))

theorem stopsAt_equals_opening {text : List Char}
    (h : ∃ c rest, text = c :: rest ∧ isOpening c = true) : StopsAt (· == '=') text := by
  obtain ⟨c, rest, rfl, hc⟩ := h
  have hne : c ≠ '=' := by
    rintro rfl
    exact absurd hc (by decide)
  simpa using hne

theorem stopsAt_equals_gap {gap rest : List Char} (hgap : Blanks gap) (c : Char)
    (hc : c ≠ '=') : StopsAt (· == '=') (gap ++ c :: rest) := by
  refine stopsAt_gap ?_ hgap (by simpa using hc)
  intro d hd
  have hne : d ≠ '=' := by
    rintro rfl
    exact absurd hd (by decide)
  simpa using hne

theorem readBound?_symbol (op : BoundOp) {rest : List Char}
    (hrest : StopsAt (· == '=') rest) :
    Shape.readBound? (op.symbol.toList ++ rest) = some (op, rest) := by
  cases op with
  | le => rfl
  | lt =>
      change Shape.readBound? ('<' :: rest) = _
      cases rest with
      | nil => rfl
      | cons c rest =>
          have hc : c ≠ '=' := by simpa using hrest
          simp [Shape.readBound?, hc]

theorem readComparator?_symbol (comparator : Shape.Comparator) {rest : List Char}
    (hrest : StopsAt (· == '=') rest) :
    Shape.readComparator? (comparator.symbol.toList ++ rest) = some (comparator, rest) := by
  cases comparator with
  | rounded => rfl
  | exact op =>
      cases op with
      | le => rfl
      | ge => rfl
      | eq => rfl
      | lt =>
          change Shape.readComparator? ('<' :: rest) = _
          cases rest with
          | nil => rfl
          | cons c rest =>
              have hc : c ≠ '=' := by simpa using hrest
              simp [Shape.readComparator?, hc]
      | gt =>
          change Shape.readComparator? ('>' :: rest) = _
          cases rest with
          | nil => rfl
          | cons c rest =>
              have hc : c ≠ '=' := by simpa using hrest
              simp [Shape.readComparator?, hc]

theorem splitNegation_mark (negated : Bool) (comparator : Shape.Comparator)
    (rest : List Char) :
    Shape.splitNegation (mark negated ++ (comparator.symbol.toList ++ rest)) =
      (negated, comparator.symbol.toList ++ rest) := by
  cases negated with
  | true => rfl
  | false =>
      cases comparator with
      | rounded => rfl
      | exact op => cases op <;> rfl

/-! ## One way to take a text apart -/

theorem stopsAt_symbol {sort : Char → Bool} (hsort : sort '<' = false) (op : BoundOp)
    (rest : List Char) : StopsAt sort (op.symbol.toList ++ rest) := by
  cases op <;> simpa [BoundOp.symbol] using hsort

section

variable {rest rest' : List Char}

theorem gap_unique {gap gap' : List Char} (hgap : Blanks gap) (hgap' : Blanks gap')
    (hrest : StopsAt isBlank rest) (hrest' : StopsAt isBlank rest')
    (h : gap ++ rest = gap' ++ rest') : gap = gap' ∧ rest = rest' :=
  run_unique hgap hrest hgap' hrest' h

theorem bound_unique {op op' : BoundOp} (hrest : StopsAt (· == '=') rest)
    (hrest' : StopsAt (· == '=') rest')
    (h : op.symbol.toList ++ rest = op'.symbol.toList ++ rest') : op = op' ∧ rest = rest' := by
  have hread := readBound?_symbol op hrest
  rw [h, readBound?_symbol op' hrest'] at hread
  cases hread
  exact ⟨rfl, rfl⟩

theorem comparator_unique {comparator comparator' : Shape.Comparator}
    (hrest : StopsAt (· == '=') rest) (hrest' : StopsAt (· == '=') rest')
    (h : comparator.symbol.toList ++ rest = comparator'.symbol.toList ++ rest') :
    comparator = comparator' ∧ rest = rest' := by
  have hread := readComparator?_symbol comparator hrest
  rw [h, readComparator?_symbol comparator' hrest'] at hread
  cases hread
  exact ⟨rfl, rfl⟩

theorem literal_unique {low low' : List Char} (hlow : Numeral.IsLiteral low)
    (hlow' : Numeral.IsLiteral low') (hrest : StopsAt Numeral.isPart rest)
    (hrest' : StopsAt Numeral.isPart rest') (h : low ++ rest = low' ++ rest') :
    low = low' ∧ rest = rest' :=
  run_unique hlow.isPart hrest hlow'.isPart hrest' h

end

theorem interval_injective {low low' gap₁ gap₁' gap₂ gap₂' gap₃ gap₃' gap₄ gap₄' high
      high' : List Char} {lowOp lowOp' highOp highOp' : BoundOp}
    (hfirst : (interval low gap₁ lowOp gap₂ gap₃ highOp gap₄ high).WellFormed)
    (hsecond : (interval low' gap₁' lowOp' gap₂' gap₃' highOp' gap₄' high').WellFormed)
    (h : (interval low gap₁ lowOp gap₂ gap₃ highOp gap₄ high).chars =
      (interval low' gap₁' lowOp' gap₂' gap₃' highOp' gap₄' high').chars) :
    interval low gap₁ lowOp gap₂ gap₃ highOp gap₄ high =
      interval low' gap₁' lowOp' gap₂' gap₃' highOp' gap₄' high' := by
  obtain ⟨hlow, hhigh, h₁, h₂, h₃, h₄⟩ := hfirst
  obtain ⟨hlow', hhigh', h₁', h₂', h₃', h₄'⟩ := hsecond
  have hpart : ∀ c, isBlank c = true → Numeral.isPart c = false :=
    fun c hc => Numeral.isPart_of_isBlank hc
  -- From the left, each part ends where the next one stops it.
  obtain ⟨rfl, hrest⟩ := literal_unique hlow hlow'
    (stopsAt_gap hpart h₁ (stopsAt_symbol rfl lowOp _))
    (stopsAt_gap hpart h₁' (stopsAt_symbol rfl lowOp' _)) h
  obtain ⟨rfl, hlowOp⟩ := gap_unique h₁ h₁' (stopsAt_symbol rfl lowOp _)
    (stopsAt_symbol rfl lowOp' _) hrest
  obtain ⟨rfl, hplace⟩ := bound_unique (stopsAt_equals_gap h₂ '_' (by decide))
    (stopsAt_equals_gap h₂' '_' (by decide)) hlowOp
  obtain ⟨rfl, hbehind⟩ := gap_unique h₂ h₂' (by simp; rfl) (by simp; rfl) hplace
  obtain ⟨rfl, hhighOp⟩ := gap_unique h₃ h₃' (stopsAt_symbol rfl highOp _)
    (stopsAt_symbol rfl highOp' _) (List.cons.inj hbehind).2
  obtain ⟨rfl, hend⟩ := bound_unique
    (stopsAt_equals_opening (exists_isOpening h₄ hhigh))
    (stopsAt_equals_opening (exists_isOpening h₄' hhigh')) hhighOp
  obtain ⟨rfl, rfl⟩ := gap_unique h₄ h₄' hhigh.stopsAt_isBlank
    hhigh'.stopsAt_isBlank hend
  rfl

theorem comparison_injective {negated negated' : Bool}
    {comparator comparator' : Shape.Comparator} {gap gap' operand operand' : List Char}
    (hfirst : (comparison negated comparator gap operand).WellFormed)
    (hsecond : (comparison negated' comparator' gap' operand').WellFormed)
    (h : (comparison negated comparator gap operand).chars =
      (comparison negated' comparator' gap' operand').chars) :
    comparison negated comparator gap operand =
      comparison negated' comparator' gap' operand' := by
  obtain ⟨hgap, hoperand⟩ := hfirst
  obtain ⟨hgap', hoperand'⟩ := hsecond
  have hsplit := congrArg Shape.splitNegation h
  simp only [chars, splitNegation_mark, Prod.mk.injEq] at hsplit
  obtain ⟨rfl, hrest⟩ := hsplit
  obtain ⟨rfl, hend⟩ := comparator_unique
    (stopsAt_equals_opening (exists_isOpening hgap hoperand))
    (stopsAt_equals_opening (exists_isOpening hgap' hoperand')) hrest
  obtain ⟨rfl, rfl⟩ := gap_unique hgap hgap' hoperand.stopsAt_isBlank
    hoperand'.stopsAt_isBlank hend
  rfl

theorem chars_injective {first second : Form} (hfirst : first.WellFormed)
    (hsecond : second.WellFormed) (h : first.chars = second.chars) : first = second := by
  have hkind : first.kind = second.kind := by
    rw [← kindOfText_chars hfirst, h, kindOfText_chars hsecond]
  cases first with
  | capture name =>
      cases second with
      | capture name' => simpa [chars] using h
      | _ => cases hkind
  | regex pattern =>
      cases second with
      | regex pattern' => simpa [chars] using h
      | _ => cases hkind
  | interval low gap₁ lowOp gap₂ gap₃ highOp gap₄ high =>
      cases second with
      | interval => exact interval_injective hfirst hsecond h
      | _ => cases hkind
  | comparison negated comparator gap operand =>
      cases second with
      | comparison => exact comparison_injective hfirst hsecond h
      | _ => cases hkind

end Form

end CellGrading
