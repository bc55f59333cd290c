import CellGrading.Pattern.Basic
import CellGrading.Proofs.Verdict.WellFormed

/-!
# Messages read back

A message quotes the cell around the actual text, without the blanks that the author put
in.  What it quotes is a cell again, and that cell asks for the same spec: operator, mark
and literals are those of the cell, and no two specs of a kind are quoted alike.
-/

namespace CellGrading

open Text

/-! ## Specs written out -/

/-- The text of a cell that asks for the spec, with no blanks beyond those of its parts. -/
def Spec.written : Spec → String
  | .blank => ""
  | .capture symbol => "$" ++ symbol ++ "="
  | .regex pattern => "=~/" ++ pattern ++ "/"
  | .interval low lowOp highOp high =>
      low.text ++ lowOp.symbol ++ "_" ++ (highOp.symbol ++ high.text)
  | .relational op negated operand => Grading.negationMark negated ++ op.symbol ++ operand.text
  | .approx negated operand => Grading.negationMark negated ++ "~=" ++ operand.text
  | .plain text => text

namespace Form

theorem spells_of_toList {form : Form} {text : String} (hwell : form.WellFormed)
    (h : text.toList = form.chars) : form.Spells text := by
  refine ⟨hwell, ?_⟩
  rw [h, (trimChars_eq_self_iff _).2 (trimmed_chars hwell)]

theorem toList_negationMark (negated : Bool) :
    (Grading.negationMark negated).toList = mark negated := by
  cases negated <;> rfl

theorem Means.exists_spells_written {form : Form} {spec : Spec} (hwell : form.WellFormed)
    (h : form.Means spec) : ∃ tight : Form, tight.Spells spec.written ∧ tight.Means spec := by
  cases h with
  | @capture name =>
      exact ⟨_, spells_of_toList hwell (by simp [Spec.written, chars]), .capture⟩
  | @regex pattern =>
      exact ⟨_, spells_of_toList hwell (by simp [Spec.written, chars]), .regex⟩
  | @interval lowText _ _ _ _ highText lowOp highOp _ _ hlow hhigh =>
      refine ⟨.interval lowText [] lowOp [] [] highOp [] highText, ?_, .interval hlow hhigh⟩
      refine spells_of_toList ⟨hwell.1, hwell.2.1, ?_⟩ ?_
      · exact ⟨blanks_nil, blanks_nil, blanks_nil, blanks_nil⟩
      · simp [Spec.written, chars, hlow, hhigh]
  | @relational negated op _ text _ htext =>
      refine ⟨.comparison negated (.exact op) [] text, ?_, .relational htext⟩
      refine spells_of_toList ⟨blanks_nil, hwell.2⟩ ?_
      simp [Spec.written, chars, toList_negationMark, htext, Shape.Comparator.symbol]
  | @approx negated _ text _ htext =>
      refine ⟨.comparison negated .rounded [] text, ?_, .approx htext⟩
      refine spells_of_toList ⟨blanks_nil, hwell.2⟩ ?_
      simp [Spec.written, chars, toList_negationMark, htext, Shape.Comparator.symbol]

end Form

theorem Spec.ofText_written (text : String) : ofText (ofText text).written = ofText text := by
  have hclassifies := classifies_ofText text
  generalize hspec : ofText text = spec at hclassifies ⊢
  cases hclassifies with
  | blank hempty => rfl
  | shaped hform hmeans =>
      obtain ⟨tight, htight, hmeans'⟩ := hmeans.exists_spells_written hform.1
      exact ofText_of_spells htight hmeans'
  | plain hne hform => exact hspec

/-! ## Quotations -/

def judgement (outcome : Outcome) : String := if outcome = .pass then "pass(" else "fail("

/-- The message quotes the spec and the actual text: for each kind, the parts around the
actual text are a cell that asks for the spec. -/
structure Verdict.Quotes (verdict : Verdict) (spec : Spec) (actual : String) : Prop where
  comparison : spec.kind = .relational ∨ spec.kind = .approx →
    ∃ asked, Spec.ofText asked = spec ∧
      verdict.message = judgement verdict.outcome ++ (actual ++ asked) ++ ")"
  interval : spec.kind = .interval →
    ∃ low high, Spec.ofText (low ++ "_" ++ high) = spec ∧
      verdict.message = judgement verdict.outcome ++ (low ++ actual ++ high) ++ ")"
  regex : spec.kind = .regex →
    ∃ pattern, Spec.ofText ("=~/" ++ pattern ++ "/") = spec ∧
      verdict.message =
        if verdict.outcome = .pass then "pass(/" ++ pattern ++ "/ found in: " ++ actual ++ ")"
        else "fail(/" ++ pattern ++ "/ not found in: " ++ actual ++ ")"
  capture : spec.kind = .capture →
    ∃ name, Spec.ofText ("$" ++ name ++ "=") = spec ∧
      verdict.message = "$" ++ name ++ "<-[" ++ actual ++ "]"

theorem message_compared (found : Bool) (kind : SpecKind) (comparison specText actual : String) :
    (Grading.compared found kind comparison specText actual).message =
      judgement (.ofMatch found) ++ comparison ++ ")" := by
  cases found <;> rfl

theorem message_regex [Pattern.Engine] {pattern specText actual : String} {verdict : Verdict}
    (h : Grading.regex pattern specText actual = .ok verdict) :
    verdict.message =
      if verdict.outcome = .pass then "pass(/" ++ pattern ++ "/ found in: " ++ actual ++ ")"
      else "fail(/" ++ pattern ++ "/ not found in: " ++ actual ++ ")" := by
  obtain ⟨found, -, hverdict⟩ := except_bind_eq_ok_iff.1 h
  cases hverdict
  cases found <;> rfl

section

variable {spec : Spec} {specText actual : String} {lookup : Lookup} {verdict : Verdict}

theorem quotes_of_grade [Pattern.Engine] (hwritten : Spec.ofText spec.written = spec)
    (h : spec.grade specText actual lookup = .ok verdict) : verdict.Quotes spec actual := by
  cases spec with
  | blank => constructor <;> simp [Spec.kind]
  | plain text => constructor <;> simp [Spec.kind]
  | capture symbol =>
      cases h
      refine ⟨?_, ?_, ?_, fun _ => ⟨symbol, hwritten, rfl⟩⟩ <;> simp [Spec.kind]
  | regex pattern =>
      refine ⟨?_, ?_, fun _ => ⟨pattern, hwritten, message_regex h⟩, ?_⟩ <;> simp [Spec.kind]
  | interval low lowOp highOp high =>
      cases h
      refine ⟨by simp [Spec.kind], fun _ => ?_, by rintro ⟨⟩, by rintro ⟨⟩⟩
      refine ⟨low.text ++ lowOp.symbol, highOp.symbol ++ high.text, hwritten, ?_⟩
      rw [Grading.interval, message_compared]
      simp only [Grading.compared, Grading.matched, String.append_assoc]
  | relational op negated operand =>
      cases h
      refine ⟨fun _ => ⟨_, hwritten, ?_⟩, by rintro ⟨⟩, by rintro ⟨⟩, by rintro ⟨⟩⟩
      rw [Grading.relational, message_compared]
      simp only [Grading.compared, Grading.matched, Spec.written, String.append_assoc]
  | approx negated operand =>
      cases h
      refine ⟨fun _ => ⟨_, hwritten, ?_⟩, by rintro ⟨⟩, by rintro ⟨⟩, by rintro ⟨⟩⟩
      rw [Grading.approx, message_compared]
      simp only [Grading.compared, Grading.matched, Spec.written, String.append_assoc]

end

/-! ## One spec to a quotation -/

theorem append_ne_cons_append {c : Char} (quoted : List Char) {first second : List Char}
    (h : StopsAt (· == c) first) : quoted ++ first ≠ c :: (quoted ++ second) := by
  induction quoted with
  | nil =>
      rintro rfl
      simp at h
  | cons d quoted ih =>
      intro heq
      obtain ⟨rfl, htail⟩ := List.cons.inj heq
      exact ih htail

theorem stopsAt_equals_symbol (op : BoundOp) (rest : List Char) :
    StopsAt (· == '=') (op.symbol.toList ++ rest) :=
  Form.stopsAt_symbol rfl op rest

theorem bound_quoted_unique {op op' : BoundOp} {quoted first second : List Char}
    (hfirst : StopsAt (· == '=') first) (hsecond : StopsAt (· == '=') second)
    (h : op.symbol.toList ++ (quoted ++ first) = op'.symbol.toList ++ (quoted ++ second)) :
    op = op' ∧ first = second := by
  cases op with
  | lt =>
      cases op' with
      | lt => exact ⟨rfl, by simpa [BoundOp.symbol] using h⟩
      | le => exact absurd (List.cons.inj h).2 (append_ne_cons_append quoted hfirst)
  | le =>
      cases op' with
      | lt => exact absurd (List.cons.inj h).2.symm (append_ne_cons_append quoted hsecond)
      | le => exact ⟨rfl, by simpa [BoundOp.symbol] using h⟩

theorem interval_eq_of_quoted {low low' high high' : Literal} {lowOp lowOp' highOp highOp' : BoundOp}
    {actual : String}
    (h : low.text ++ lowOp.symbol ++ actual ++ highOp.symbol ++ high.text =
      low'.text ++ lowOp'.symbol ++ actual ++ highOp'.symbol ++ high'.text) :
    Spec.interval low lowOp highOp high = Spec.interval low' lowOp' highOp' high' := by
  have hchars := congrArg String.toList h
  simp only [String.toList_append, List.append_assoc] at hchars
  obtain ⟨hlow, hrest⟩ := Form.literal_unique low.isLiteral_text low'.isLiteral_text
    (Form.stopsAt_symbol rfl lowOp _) (Form.stopsAt_symbol rfl lowOp' _) hchars
  obtain ⟨rfl, hend⟩ := bound_quoted_unique (stopsAt_equals_symbol highOp _)
    (stopsAt_equals_symbol highOp' _) hrest
  obtain ⟨rfl, hhigh⟩ := Form.bound_unique
    (Form.stopsAt_equals_opening (Form.exists_isOpening blanks_nil high.isLiteral_text))
    (Form.stopsAt_equals_opening (Form.exists_isOpening blanks_nil high'.isLiteral_text)) hend
  rw [Literal.ext_of_toList hlow, Literal.ext_of_toList hhigh]

theorem eq_of_judged {outcome outcome' : Outcome} {shown shown' : String}
    (h : judgement outcome ++ shown ++ ")" = judgement outcome' ++ shown' ++ ")") :
    shown = shown' := by
  rw [← String.toList_inj] at h ⊢
  unfold judgement at h
  split at h <;> split at h <;> simp_all

section

variable {spec spec' : Spec} {specText specText' actual : String} {lookup lookup' : Lookup}
  {verdict verdict' : Verdict}

theorem eq_of_quoted_regex {pattern pattern' : String}
    (h : (if verdict.outcome = .pass then "pass(/" ++ pattern ++ "/ found in: " ++ actual ++ ")"
        else "fail(/" ++ pattern ++ "/ not found in: " ++ actual ++ ")") =
      if verdict'.outcome = .pass then "pass(/" ++ pattern' ++ "/ found in: " ++ actual ++ ")"
        else "fail(/" ++ pattern' ++ "/ not found in: " ++ actual ++ ")") :
    pattern = pattern' := by
  rw [← String.toList_inj] at h ⊢
  split at h <;> split at h <;> simp_all

theorem spec_eq_of_comparison_quoted (hquotes : verdict.Quotes spec actual)
    (hquotes' : verdict'.Quotes spec' actual) (hkind : spec'.kind = spec.kind)
    (hcompares : spec.kind = .relational ∨ spec.kind = .approx)
    (hmessage : verdict'.message = verdict.message) : spec' = spec := by
  obtain ⟨asked, hasked, hshown⟩ := hquotes.comparison hcompares
  obtain ⟨asked', hasked', hshown'⟩ := hquotes'.comparison (by rwa [hkind])
  rw [hshown, hshown'] at hmessage
  have hquoted := eq_of_judged hmessage
  have hsame : asked' = asked := by
    rw [← String.toList_inj] at hquoted ⊢
    simpa using hquoted
  rw [← hasked, ← hasked', hsame]

theorem spec_eq_of_message_eq [Pattern.Engine] (hwritten : Spec.ofText spec.written = spec)
    (hwritten' : Spec.ofText spec'.written = spec')
    (h : spec.grade specText actual lookup = .ok verdict)
    (h' : spec'.grade specText' actual lookup' = .ok verdict')
    (hkind : spec'.kind = spec.kind) (hplain : spec.kind ≠ .plain)
    (hmessage : verdict'.message = verdict.message) : spec' = spec := by
  have hquotes := quotes_of_grade hwritten h
  have hquotes' := quotes_of_grade hwritten' h'
  cases spec with
  | blank =>
      cases spec' with
      | blank => rfl
      | _ => cases hkind
  | capture symbol =>
      obtain ⟨name, hname, hshown⟩ := hquotes.capture rfl
      obtain ⟨name', hname', hshown'⟩ := hquotes'.capture hkind
      rw [hshown, hshown'] at hmessage
      have hsame : name' = name := by
        rw [← String.toList_inj] at hmessage ⊢
        simpa using hmessage
      rw [← hname, ← hname', hsame]
  | regex pattern =>
      obtain ⟨found, hfound, hshown⟩ := hquotes.regex rfl
      obtain ⟨found', hfound', hshown'⟩ := hquotes'.regex hkind
      rw [hshown, hshown'] at hmessage
      rw [← hfound, ← hfound', eq_of_quoted_regex hmessage]
  | interval low lowOp highOp high =>
      -- Where the actual text begins decides between `<` and `<=`, so the parts count.
      cases spec' with
      | interval low' lowOp' highOp' high' =>
          cases h
          cases h'
          rw [Grading.interval, Grading.interval, message_compared, message_compared] at hmessage
          exact interval_eq_of_quoted (eq_of_judged hmessage)
      | _ => cases hkind
  | relational op negated operand =>
      exact spec_eq_of_comparison_quoted hquotes hquotes' hkind (.inl rfl) hmessage
  | approx negated operand =>
      exact spec_eq_of_comparison_quoted hquotes hquotes' hkind (.inr rfl) hmessage
  | plain text => exact absurd rfl hplain

/-- The message of a graded value quotes the spec of the cell, read back from the message
as the same spec.  Nothing of the spec is lost in it: cells of one kind, plain text aside,
that say the same of one actual text ask for the same. -/
theorem evaluate_quotes [Pattern.Engine] (h : evaluate specText actual lookup = .ok verdict) :
    verdict.Quotes (Spec.ofText specText) actual ∧
      ∀ {specText' : String} {lookup' : Lookup} {verdict' : Verdict},
        evaluate specText' actual lookup' = .ok verdict' → verdict'.kind = verdict.kind →
        verdict.kind ≠ .plain → verdict'.message = verdict.message →
        Spec.ofText specText' = Spec.ofText specText := by
  refine ⟨quotes_of_grade (Spec.ofText_written specText) h, ?_⟩
  intro specText' lookup' verdict' h' hkind hplain hmessage
  have hspec := (arises_of_evaluate h).kind_eq
  have hspec' := (arises_of_evaluate h').kind_eq
  rw [hspec, hspec'] at hkind
  rw [hspec] at hplain
  exact spec_eq_of_message_eq (Spec.ofText_written specText) (Spec.ofText_written specText') h h'
    hkind hplain hmessage

/-- Blanks around each part, and an actual text made of operators.  The same cell without
the blanks says the same. -/
theorem evaluate_quotes_operators :
    ∃ verdict verdict',
      evaluate "\t-.5 <=\u3000_ <\n+07. " "=<_" .nothing = .ok verdict ∧
      evaluate "-.5<=_<+07." "=<_" .nothing = .ok verdict' ∧
      verdict.kind = .interval ∧ verdict'.kind = .interval ∧
      verdict.message = "fail(-.5<==<_<+07.)" ∧ verdict'.message = "fail(-.5<==<_<+07.)" ∧
      (∃ low high, Spec.ofText (low ++ "_" ++ high) = Spec.ofText "\t-.5 <=\u3000_ <\n+07. " ∧
        "fail(-.5<==<_<+07.)" = "fail(" ++ (low ++ "=<_" ++ high) ++ ")") ∧
      Spec.ofText "-.5<=_<+07." = Spec.ofText "\t-.5 <=\u3000_ <\n+07. " := by
  obtain ⟨verdict, hverdict, hmessage, hfail, hkind⟩ :
      ∃ verdict, evaluate "\t-.5 <=\u3000_ <\n+07. " "=<_" .nothing = .ok verdict ∧
        verdict.message = "fail(-.5<==<_<+07.)" ∧ verdict.outcome = .fail ∧
        verdict.kind = .interval :=
    ⟨_, rfl, by decide +kernel, by decide +kernel, rfl⟩
  obtain ⟨verdict', hverdict', hmessage', hkind'⟩ :
      ∃ verdict', evaluate "-.5<=_<+07." "=<_" .nothing = .ok verdict' ∧
        verdict'.message = "fail(-.5<==<_<+07.)" ∧ verdict'.kind = .interval :=
    ⟨_, rfl, by decide +kernel, rfl⟩
  obtain ⟨hquotes, hunique⟩ := evaluate_quotes hverdict
  obtain ⟨low, high, hspec, hshown⟩ := hquotes.interval (by decide +kernel)
  rw [hmessage, hfail] at hshown
  have hspec' := hunique hverdict' (hkind'.trans hkind.symm) (by rw [hkind]; decide)
    (hmessage'.trans hmessage.symm)
  exact ⟨verdict, verdict', hverdict, hverdict', hkind, hkind', hmessage, hmessage',
    ⟨low, high, hspec, hshown⟩, hspec'⟩

end

end CellGrading
