import CellGrading.Proofs.Spec.Form
import CellGrading.Spec.Classification

/-!
# Classification by the grammar

The recognisers of the shapes accept the forms of the grammar and no others.  As
a text has at most one form, the spec of a cell is the meaning of that form, in
whatever order the shapes are tried; a text without a form stands for itself.
-/

namespace CellGrading

open Text

/-! ## Literals -/

namespace Literal

theorem isLiteral_text (literal : Literal) : Numeral.IsLiteral literal.text.toList := by
  obtain ⟨numeral, hspells, -⟩ := (Decimal.ofText?_eq_some_iff _ _).1 literal.ofText?_text
  rw [← toList_trim, literal.trim_text] at hspells
  exact ⟨numeral, hspells⟩

theorem exists_ofText? {text : List Char} (h : Numeral.IsLiteral text) :
    ∃ literal, ofText? (.ofList text) = some literal ∧ literal.text.toList = text := by
  obtain ⟨numeral, hspells⟩ := h
  have htrim : trimChars text = text :=
    (trimChars_eq_self_iff text).2 (Numeral.IsLiteral.trimmed ⟨numeral, hspells⟩)
  cases hread : ofText? (.ofList text) with
  | none =>
      have hnone := (ofText?_eq_none_iff _).1 hread
      have hsome := (Decimal.ofText?_eq_some_iff (.ofList text) numeral.value).2
        ⟨numeral, by simpa [htrim] using hspells, rfl⟩
      rw [hnone] at hsome
      cases hsome
  | some literal =>
      refine ⟨literal, rfl, ?_⟩
      rw [text_of_ofText? hread, toList_trim, String.toList_ofList, htrim]

end Literal

/-! ## Recognisers -/

namespace Shape

theorem capture?_eq_some_iff (text name : List Char) :
    capture? text = some name ↔
      (Form.capture name).WellFormed ∧ text = (Form.capture name).chars := by
  constructor
  · intro h
    unfold capture? at h
    split at h
    · next first rest =>
        split at h
        · next hfirst =>
            split at h
            · next hdrop =>
                cases h
                refine ⟨⟨first, _, rfl, hfirst, fun c hc => List.mem_takeWhile_imp hc⟩, ?_⟩
                rw [Form.chars, List.cons_append, ← hdrop, List.takeWhile_append_dropWhile]
            · cases h
        · cases h
    · cases h
  · rintro ⟨⟨first, rest, rfl, hfirst, hrest⟩, rfl⟩
    have hstop : StopsAt isWord ['='] := by simp
    simp [Form.chars, capture?, hfirst, takeWhile_run hrest hstop, dropWhile_run hrest hstop]

theorem regex?_eq_some_iff (text pattern : List Char) :
    regex? text = some pattern ↔ text = (Form.regex pattern).chars := by
  constructor
  · intro h
    unfold regex? at h
    split at h
    · next rest =>
        split at h
        · next hlast =>
            cases h
            have hrest := List.dropLast_append_getLast? '/' hlast
            rw [Form.chars, hrest]
        · cases h
    · cases h
  · rintro rfl
    simp [Form.chars, regex?]

theorem readBound?_eq_some {text rest : List Char} {op : BoundOp}
    (h : readBound? text = some (op, rest)) : text = op.symbol.toList ++ rest := by
  unfold readBound? at h
  split at h <;> cases h <;> rfl

theorem readComparator?_eq_some {text rest : List Char} {comparator : Comparator}
    (h : readComparator? text = some (comparator, rest)) :
    text = comparator.symbol.toList ++ rest := by
  unfold readComparator? at h
  split at h <;> cases h <;> rfl

theorem eq_mark_append_splitNegation (text : List Char) :
    text = Form.mark (splitNegation text).1 ++ (splitNegation text).2 := by
  unfold splitNegation
  split <;> rfl

theorem comparison?_eq_some_iff (text : List Char) (parts : Comparison) :
    comparison? text = some parts ↔
      ∃ gap, (Form.comparison parts.negated parts.comparator gap parts.operand).WellFormed ∧
        text = (Form.comparison parts.negated parts.comparator gap parts.operand).chars := by
  constructor
  · intro h
    simp only [comparison?, Option.bind_eq_bind, Option.bind_eq_some_iff] at h
    obtain ⟨⟨comparator, rest⟩, hread, h⟩ := h
    dsimp only at h
    split at h
    · next hnumeral =>
        cases h
        obtain ⟨gap, hgap, hrest⟩ := exists_blanks_append_dropBlanks rest
        refine ⟨gap, ⟨hgap, (Numeral.isNumeral_eq_true_iff _).1 hnumeral⟩, ?_⟩
        have htext := eq_mark_append_splitNegation text
        rw [readComparator?_eq_some hread] at htext
        rw [Form.chars, ← hrest, ← htext]
    · cases h
  · rintro ⟨gap, ⟨hgap, hoperand⟩, rfl⟩
    have hstop := Form.stopsAt_equals_opening (Form.exists_isOpening hgap hoperand)
    have hdrop := dropBlanks_blanks hgap hoperand.stopsAt_isBlank
    have hnumeral := (Numeral.isNumeral_eq_true_iff _).2 hoperand
    simp [comparison?, Form.chars, Form.splitNegation_mark,
      Form.readComparator?_symbol _ hstop, hdrop, hnumeral]

def isLow (c : Char) : Bool := c != '<' && !isBlank c

theorem isLow_def : isLow = fun c => c != '<' && !isBlank c := rfl

theorem isLow_of_isPart {c : Char} (h : Numeral.isPart c = true) : isLow c = true := by
  have hne : c ≠ '<' := Numeral.ne_of_isPart h rfl
  simp [isLow, hne, Numeral.isBlank_of_isPart h]

theorem isLow_of_isBlank {c : Char} (h : isBlank c = true) : isLow c = false := by
  simp [isLow, h]

theorem exists_gaps_of_interval? {text : List Char} {parts : Interval}
    (h : interval? text = some parts) :
    ∃ gap₁ gap₂ gap₃ gap₄,
      (Form.interval parts.low gap₁ parts.lowOp gap₂ gap₃ parts.highOp gap₄
        parts.high).WellFormed ∧
      text = (Form.interval parts.low gap₁ parts.lowOp gap₂ gap₃ parts.highOp gap₄
        parts.high).chars := by
  simp only [interval?, Option.bind_eq_bind, Option.bind_eq_some_iff] at h
  obtain ⟨⟨lowOp, rest⟩, hlowOp, h⟩ := h
  dsimp only at h
  split at h
  · next behind hplace =>
      rw [Option.bind_eq_some_iff] at h
      obtain ⟨⟨highOp, rest'⟩, hhighOp, h⟩ := h
      dsimp only at h
      split at h
      · next hnumerals =>
          cases h
          rw [Bool.and_eq_true, Numeral.isNumeral_eq_true_iff,
            Numeral.isNumeral_eq_true_iff] at hnumerals
          obtain ⟨gap₁, h₁, htext₁⟩ :=
            exists_blanks_append_dropBlanks (text.dropWhile isLow)
          obtain ⟨gap₂, h₂, htext₂⟩ := exists_blanks_append_dropBlanks rest
          obtain ⟨gap₃, h₃, htext₃⟩ := exists_blanks_append_dropBlanks behind
          obtain ⟨gap₄, h₄, htext₄⟩ := exists_blanks_append_dropBlanks rest'
          refine ⟨gap₁, gap₂, gap₃, gap₄,
            ⟨hnumerals.1, hnumerals.2, h₁, h₂, h₃, h₄⟩, ?_⟩
          have hlow : dropBlanks (text.dropWhile isLow) = lowOp.symbol.toList ++ rest :=
            readBound?_eq_some hlowOp
          rw [hlow] at htext₁
          rw [hplace] at htext₂
          rw [readBound?_eq_some hhighOp] at htext₃
          rw [Form.chars, ← htext₄, ← htext₃, ← htext₂, ← htext₁]
          exact List.takeWhile_append_dropWhile.symm
      · cases h
  · cases h

theorem interval?_chars {low gap₁ gap₂ gap₃ gap₄ high : List Char} {lowOp highOp : BoundOp}
    (h : (Form.interval low gap₁ lowOp gap₂ gap₃ highOp gap₄ high).WellFormed) :
    interval? (Form.interval low gap₁ lowOp gap₂ gap₃ highOp gap₄ high).chars =
      some ⟨low, lowOp, highOp, high⟩ := by
  obtain ⟨hlow, hhigh, h₁, h₂, h₃, h₄⟩ := h
  have hstop := Form.stopsAt_gap (fun c hc => isLow_of_isBlank hc) h₁
    (Form.stopsAt_symbol (show isLow '<' = false from rfl) lowOp
      (gap₂ ++ '_' :: (gap₃ ++ (highOp.symbol.toList ++ (gap₄ ++ high)))))
  have htake := takeWhile_run (fun c hc => isLow_of_isPart (hlow.isPart c hc)) hstop
  have hdrop := dropWhile_run (fun c hc => isLow_of_isPart (hlow.isPart c hc)) hstop
  have hbehind : StopsAt (· == '=')
      (gap₂ ++ '_' :: (gap₃ ++ (highOp.symbol.toList ++ (gap₄ ++ high)))) :=
    Form.stopsAt_equals_gap h₂ '_' (by decide)
  have hlowOp := Form.readBound?_symbol lowOp hbehind
  have hopening := Form.stopsAt_equals_opening (Form.exists_isOpening h₄ hhigh)
  have hhighOp := Form.readBound?_symbol highOp hopening
  have hplace : StopsAt isBlank
      ('_' :: (gap₃ ++ (highOp.symbol.toList ++ (gap₄ ++ high)))) := by
    rw [stopsAt_cons]
    rfl
  simp only [interval?, Form.chars, ← isLow_def, htake, hdrop, hlowOp, hhighOp,
    dropBlanks_blanks h₁ (Form.stopsAt_symbol rfl _ _), dropBlanks_blanks h₂ hplace,
    dropBlanks_blanks h₃ (Form.stopsAt_symbol rfl _ _),
    dropBlanks_blanks h₄ hhigh.stopsAt_isBlank, Option.bind_eq_bind, Option.bind_some,
    (Numeral.isNumeral_eq_true_iff _).2 hlow, (Numeral.isNumeral_eq_true_iff _).2 hhigh,
    Bool.and_true, if_true]

theorem interval?_eq_some_iff (text : List Char) (parts : Interval) :
    interval? text = some parts ↔
      ∃ gap₁ gap₂ gap₃ gap₄,
        (Form.interval parts.low gap₁ parts.lowOp gap₂ gap₃ parts.highOp gap₄
          parts.high).WellFormed ∧
        text = (Form.interval parts.low gap₁ parts.lowOp gap₂ gap₃ parts.highOp gap₄
          parts.high).chars := by
  constructor
  · exact exists_gaps_of_interval?
  · rintro ⟨gap₁, gap₂, gap₃, gap₄, hwell, rfl⟩
    exact interval?_chars hwell

end Shape

/-! ## Meaning -/

/-- The spec that a form stands for; literals keep the text that is written. -/
inductive Form.Means : Form → Spec → Prop
  | capture {name : List Char} : Means (.capture name) (.capture (.ofList name))
  | regex {pattern : List Char} : Means (.regex pattern) (.regex (.ofList pattern))
  | interval {lowText gap₁ gap₂ gap₃ gap₄ highText : List Char} {lowOp highOp : BoundOp}
      {low high : Literal} (hlow : low.text.toList = lowText)
      (hhigh : high.text.toList = highText) :
      Means (.interval lowText gap₁ lowOp gap₂ gap₃ highOp gap₄ highText)
        (.interval low lowOp highOp high)
  | relational {negated : Bool} {op : RelationalOp} {gap text : List Char}
      {operand : Literal} (htext : operand.text.toList = text) :
      Means (.comparison negated (.exact op) gap text) (.relational op negated operand)
  | approx {negated : Bool} {gap text : List Char} {operand : Literal}
      (htext : operand.text.toList = text) :
      Means (.comparison negated .rounded gap text) (.approx negated operand)

theorem Literal.ext_of_toList {first second : Literal}
    (h : first.text.toList = second.text.toList) : first = second :=
  Literal.ext_of_text (String.toList_inj.1 h)

theorem Form.Means.unique {form : Form} {first second : Spec} (hfirst : form.Means first)
    (hsecond : form.Means second) : first = second := by
  cases hfirst with
  | capture => cases hsecond; rfl
  | regex => cases hsecond; rfl
  | interval hlow hhigh =>
      cases hsecond with
      | interval hlow' hhigh' =>
          rw [Literal.ext_of_toList (hlow.trans hlow'.symm),
            Literal.ext_of_toList (hhigh.trans hhigh'.symm)]
  | relational htext =>
      cases hsecond with
      | relational htext' => rw [Literal.ext_of_toList (htext.trans htext'.symm)]
  | approx htext =>
      cases hsecond with
      | approx htext' => rw [Literal.ext_of_toList (htext.trans htext'.symm)]

theorem Form.Means.kind_of_interval {form : Form} {spec : Spec} (h : form.Means spec)
    (hkind : form.kind = .interval) : spec.kind = .interval := by
  cases h with
  | interval => rfl
  | _ => cases hkind

theorem Form.Means.kind_of_comparison {form : Form} {spec : Spec} (h : form.Means spec)
    (hkind : form.kind = .comparison) : spec.kind = .relational ∨ spec.kind = .approx := by
  cases h with
  | relational => exact .inl rfl
  | approx => exact .inr rfl
  | _ => cases hkind

namespace Spec

def ofCaptureText? (text : List Char) : Option Spec :=
  (Shape.capture? text).map fun name => .capture (.ofList name)

def ofRegexText? (text : List Char) : Option Spec :=
  (Shape.regex? text).map fun pattern => .regex (.ofList pattern)

def ofIntervalText? (text : List Char) : Option Spec :=
  (Shape.interval? text).bind ofInterval?

def ofComparisonText? (text : List Char) : Option Spec :=
  (Shape.comparison? text).bind ofComparison?

/-- The readers of the four shapes, in the order in which they are tried. -/
def readers : List (List Char → Option Spec) :=
  [ofCaptureText?, ofRegexText?, ofIntervalText?, ofComparisonText?]

theorem ofShape?_eq_findSome? (text : List Char) :
    ofShape? text = readers.findSome? fun reader => reader text := by
  change (ofCaptureText? text <|> ofRegexText? text <|> ofIntervalText? text <|>
    ofComparisonText? text) = _
  simp only [readers, List.findSome?_cons, List.findSome?_nil]
  cases ofCaptureText? text with
  | some spec => rfl
  | none =>
      cases ofRegexText? text with
      | some spec => rfl
      | none =>
          cases ofIntervalText? text with
          | some spec => rfl
          | none => cases ofComparisonText? text <;> rfl

theorem exists_ofInterval? (parts : Shape.Interval) (hlow : Numeral.IsLiteral parts.low)
    (hhigh : Numeral.IsLiteral parts.high) :
    ∃ low high : Literal, low.text.toList = parts.low ∧ high.text.toList = parts.high ∧
      ofInterval? parts = some (.interval low parts.lowOp parts.highOp high) := by
  obtain ⟨low, hreadLow, hlowText⟩ := Literal.exists_ofText? hlow
  obtain ⟨high, hreadHigh, hhighText⟩ := Literal.exists_ofText? hhigh
  exact ⟨low, high, hlowText, hhighText, by simp [ofInterval?, hreadLow, hreadHigh]⟩

theorem exists_ofComparison? (parts : Shape.Comparison)
    (hoperand : Numeral.IsLiteral parts.operand) (gap : List Char) :
    ∃ spec, ofComparison? parts = some spec ∧
      (Form.comparison parts.negated parts.comparator gap parts.operand).Means spec := by
  obtain ⟨operand, hread, htext⟩ := Literal.exists_ofText? hoperand
  obtain ⟨negated, comparator, text⟩ := parts
  cases comparator with
  | exact op => exact ⟨_, by simp [ofComparison?, hread], .relational htext⟩
  | rounded => exact ⟨_, by simp [ofComparison?, hread], .approx htext⟩

theorem exists_form_of_reader {reader : List Char → Option Spec} (hreader : reader ∈ readers)
    {text : List Char} {spec : Spec} (h : reader text = some spec) :
    ∃ form : Form, form.WellFormed ∧ text = form.chars ∧ form.Means spec := by
  simp only [readers, List.mem_cons, List.not_mem_nil, or_false] at hreader
  rcases hreader with rfl | rfl | rfl | rfl
  · obtain ⟨name, hname, rfl⟩ := Option.map_eq_some_iff.1 h
    obtain ⟨hwell, htext⟩ := (Shape.capture?_eq_some_iff text name).1 hname
    exact ⟨_, hwell, htext, .capture⟩
  · obtain ⟨pattern, hpattern, rfl⟩ := Option.map_eq_some_iff.1 h
    exact ⟨.regex pattern, trivial, (Shape.regex?_eq_some_iff text pattern).1 hpattern, .regex⟩
  · obtain ⟨parts, hparts, hspec⟩ := Option.bind_eq_some_iff.1 h
    obtain ⟨gap₁, gap₂, gap₃, gap₄, hwell, htext⟩ :=
      (Shape.interval?_eq_some_iff text parts).1 hparts
    obtain ⟨low, high, hlow, hhigh, hmeans⟩ := exists_ofInterval? parts hwell.1 hwell.2.1
    rw [hmeans] at hspec
    cases hspec
    exact ⟨_, hwell, htext, .interval hlow hhigh⟩
  · obtain ⟨parts, hparts, hspec⟩ := Option.bind_eq_some_iff.1 h
    obtain ⟨gap, hwell, htext⟩ := (Shape.comparison?_eq_some_iff text parts).1 hparts
    obtain ⟨meant, hread, hmeans⟩ := exists_ofComparison? parts hwell.2 gap
    rw [hread] at hspec
    cases hspec
    exact ⟨_, hwell, htext, hmeans⟩

theorem exists_reader_of_form {form : Form} (h : form.WellFormed) :
    ∃ reader ∈ readers, ∃ spec, reader form.chars = some spec ∧ form.Means spec := by
  cases form with
  | capture name =>
      have hread := (Shape.capture?_eq_some_iff _ name).2 ⟨h, rfl⟩
      exact ⟨ofCaptureText?, by simp [readers], _, by simp [ofCaptureText?, hread], .capture⟩
  | regex pattern =>
      have hread := (Shape.regex?_eq_some_iff _ pattern).2 rfl
      exact ⟨ofRegexText?, by simp [readers], _, by simp [ofRegexText?, hread], .regex⟩
  | interval low gap₁ lowOp gap₂ gap₃ highOp gap₄ high =>
      have hread := Shape.interval?_chars h
      obtain ⟨lowLit, highLit, hlow, hhigh, hspec⟩ :=
        exists_ofInterval? ⟨low, lowOp, highOp, high⟩ h.1 h.2.1
      exact ⟨ofIntervalText?, by simp [readers], _, by simp [ofIntervalText?, hread, hspec],
        .interval hlow hhigh⟩
  | comparison negated comparator gap operand =>
      have hread := (Shape.comparison?_eq_some_iff _ ⟨negated, comparator, operand⟩).2
        ⟨gap, h, rfl⟩
      obtain ⟨spec, hspec, hmeans⟩ :=
        exists_ofComparison? ⟨negated, comparator, operand⟩ h.2 gap
      exact ⟨ofComparisonText?, by simp [readers], spec,
        by simp [ofComparisonText?, hread, hspec], hmeans⟩

/-- In whatever order they are tried, the readers find the meaning of the one
form of the text. -/
theorem findSome?_eq_some_iff_of_perm {order : List (List Char → Option Spec)}
    (horder : order.Perm readers) (text : List Char) (spec : Spec) :
    (order.findSome? fun reader => reader text) = some spec ↔
      ∃ form : Form, form.WellFormed ∧ text = form.chars ∧ form.Means spec := by
  have hsound : ∀ {found : Spec}, (order.findSome? fun reader => reader text) = some found →
      ∃ form : Form, form.WellFormed ∧ text = form.chars ∧ form.Means found := by
    intro found hfound
    obtain ⟨reader, hreader, hread⟩ := List.exists_of_findSome?_eq_some hfound
    exact exists_form_of_reader (horder.mem_iff.1 hreader) hread
  constructor
  · exact hsound
  · rintro ⟨form, hwell, rfl, hmeans⟩
    obtain ⟨reader, hreader, meant, hread, -⟩ := exists_reader_of_form hwell
    cases hfound : order.findSome? fun reader => reader form.chars with
    | none =>
        have hnone := List.findSome?_eq_none_iff.1 hfound reader (horder.mem_iff.2 hreader)
        rw [hnone] at hread
        cases hread
    | some found =>
        obtain ⟨other, hother, hchars, hfoundMeans⟩ := hsound hfound
        cases Form.chars_injective hwell hother hchars
        rw [hmeans.unique hfoundMeans]

theorem ofShape?_eq_some_iff (text : List Char) (spec : Spec) :
    ofShape? text = some spec ↔
      ∃ form : Form, form.WellFormed ∧ text = form.chars ∧ form.Means spec := by
  rw [ofShape?_eq_findSome?, findSome?_eq_some_iff_of_perm (.refl readers)]

end Spec

/-! ## Cells -/

def Form.Spells (form : Form) (text : String) : Prop :=
  form.WellFormed ∧ trimChars text.toList = form.chars

instance (form : Form) : DecidablePred form.Spells := fun _ =>
  inferInstanceAs (Decidable (_ ∧ _))

/-- The spec that the grammar gives to the text of a cell. -/
inductive Classifies (text : String) : Spec → Prop
  | blank (hempty : text = "") : Classifies text .blank
  | shaped {form : Form} {spec : Spec} (hform : form.Spells text) (hspec : form.Means spec) :
      Classifies text spec
  | plain (hne : text ≠ "") (hform : ∀ form : Form, ¬ form.Spells text) :
      Classifies text (.plain text)

theorem Form.spells_iff (form : Form) (text : String) :
    form.Spells text ↔ form.WellFormed ∧
      ∃ before after, Blanks before ∧ Blanks after ∧
        text.toList = before ++ form.chars ++ after := by
  constructor
  · rintro ⟨hwell, hchars⟩
    obtain ⟨before, after, hbefore, hafter, htext⟩ := exists_trimChars text.toList
    exact ⟨hwell, before, after, hbefore, hafter, by rwa [hchars] at htext⟩
  · rintro ⟨hwell, before, after, hbefore, hafter, htext⟩
    refine ⟨hwell, ?_⟩
    rw [htext]
    exact trimChars_blanks hbefore (trimmed_chars hwell) hafter

theorem Form.Spells.unique {first second : Form} {text : String} (hfirst : first.Spells text)
    (hsecond : second.Spells text) : first = second :=
  chars_injective hfirst.1 hsecond.1 (hfirst.2.symm.trans hsecond.2)

theorem Form.Spells.ne_empty {form : Form} {text : String} (h : form.Spells text) :
    text ≠ "" := by
  rintro rfl
  have hchars : form.chars = [] := h.2.symm
  have hkind := kindOfText_chars h.1
  rw [hchars] at hkind
  cases form with
  | comparison negated comparator gap operand =>
      have hparts := (List.append_eq_nil_iff.1 hchars).2
      simp only [List.append_eq_nil_iff] at hparts
      exact h.1.2.ne_nil hparts.2.2
  | _ => cases hkind

namespace Spec

theorem ofText_of_spells {form : Form} {text : String} {spec : Spec} (h : form.Spells text)
    (hspec : form.Means spec) : ofText text = spec := by
  have hne : text.isEmpty = false := by simpa using h.ne_empty
  have hshape := (ofShape?_eq_some_iff (trimChars text.toList) spec).2 ⟨form, h.1, h.2, hspec⟩
  simp [ofText, hne, hshape]

theorem means_ofText {form : Form} {text : String} (h : form.Spells text) :
    form.Means (ofText text) := by
  obtain ⟨-, -, spec, -, hspec⟩ := exists_reader_of_form h.1
  rwa [ofText_of_spells h hspec]

theorem ofText_of_not_spells {text : String} (hne : text ≠ "")
    (h : ∀ form : Form, ¬ form.Spells text) : ofText text = .plain text := by
  have hnone : ofShape? (trimChars text.toList) = none := by
    cases hshape : ofShape? (trimChars text.toList) with
    | none => rfl
    | some spec =>
        obtain ⟨form, hwell, hchars, -⟩ := (ofShape?_eq_some_iff _ spec).1 hshape
        exact absurd ⟨hwell, hchars⟩ (h form)
  have hempty : text.isEmpty = false := by simpa using hne
  simp [ofText, hempty, hnone]

theorem classifies_ofText (text : String) : Classifies text (ofText text) := by
  by_cases hempty : text = ""
  · subst hempty
    exact .blank rfl
  · by_cases hform : ∃ form : Form, form.Spells text
    · obtain ⟨form, hform⟩ := hform
      exact .shaped hform (means_ofText hform)
    · have hnone := not_exists.1 hform
      rw [ofText_of_not_spells hempty hnone]
      exact .plain hempty hnone

theorem ofText_eq_iff (text : String) (spec : Spec) :
    ofText text = spec ↔ Classifies text spec := by
  constructor
  · rintro rfl
    exact classifies_ofText text
  · intro h
    cases h with
    | blank hempty => subst hempty; rfl
    | shaped hform hspec => exact ofText_of_spells hform hspec
    | plain hne hform => exact ofText_of_not_spells hne hform

theorem exists_name_of_ofText_eq_capture {text symbol : String}
    (h : ofText text = .capture symbol) :
    ∃ name, symbol = .ofList name ∧ (Form.capture name).Spells text := by
  cases (ofText_eq_iff text _).1 h with
  | @shaped form _ hform hspec =>
      cases hspec with
      | @capture name => exact ⟨name, rfl, hform⟩

theorem eq_of_ofText_eq_plain {text kept : String} (h : ofText text = .plain kept) :
    kept = text := by
  rcases (ofText_eq_iff text _).1 h with _ | ⟨-, hspec⟩ | ⟨-, -⟩
  · cases hspec
  · rfl

/-- The grammar decides what a cell asks.  A form of the text is the only one, it
gives the spec, and the order in which the shapes are tried does not matter.  In
particular a text that a recogniser of numbers accepts is never taken as plain. -/
theorem ofText_by_grammar (text : String) :
    (∀ spec, ofText text = spec ↔ Classifies text spec) ∧
    (∀ first second : Form, first.Spells text → second.Spells text → first = second) ∧
    (∀ form : Form, form.Spells text → form.Means (ofText text)) ∧
    (∀ order : List (List Char → Option Spec), order.Perm readers → text ≠ "" →
      ofText text =
        (order.findSome? fun reader => reader (trimChars text.toList)).getD (.plain text)) ∧
    ((Shape.interval? (trimChars text.toList)).isSome = true →
      (ofText text).kind = .interval) ∧
    ((Shape.comparison? (trimChars text.toList)).isSome = true →
      (ofText text).kind = .relational ∨ (ofText text).kind = .approx) := by
  refine ⟨ofText_eq_iff text, fun _ _ => Form.Spells.unique, fun _ => means_ofText,
    ?_, ?_, ?_⟩
  · intro order horder hne
    have hempty : text.isEmpty = false := by simpa using hne
    have hsame : ofShape? (trimChars text.toList) =
        order.findSome? fun reader => reader (trimChars text.toList) := by
      ext spec
      rw [ofShape?_eq_some_iff, findSome?_eq_some_iff_of_perm horder]
    simp [ofText, hempty, hsame]
  · intro h
    obtain ⟨parts, hparts⟩ := Option.isSome_iff_exists.1 h
    obtain ⟨gap₁, gap₂, gap₃, gap₄, hform⟩ := (Shape.interval?_eq_some_iff _ parts).1 hparts
    exact (means_ofText hform).kind_of_interval rfl
  · intro h
    obtain ⟨parts, hparts⟩ := Option.isSome_iff_exists.1 h
    obtain ⟨gap, hform⟩ := (Shape.comparison?_eq_some_iff _ parts).1 hparts
    exact (means_ofText hform).kind_of_comparison rfl

end Spec

end CellGrading
