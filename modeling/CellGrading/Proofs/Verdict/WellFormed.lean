import CellGrading.Pattern.Basic
import CellGrading.Proofs.Result
import CellGrading.Proofs.Spec.Classification
import CellGrading.Verdict.Grading

/-!
# What verdicts are like

The verdicts that grading can give, form by form, and what they have in common: the
fields of a verdict agree with each other and with the cell, and the message tells
the outcome by how it begins, whatever the texts are that it quotes.
-/

namespace CellGrading

open Text

/-! ## The forms of verdict -/

def SpecKind.compares : SpecKind → Bool
  | .regex | .interval | .relational | .approx => true
  | .blank | .capture | .plain => false

/-- The verdicts that can arise from a cell and an actual value. -/
inductive Verdict.Arises (specText actual : String) (lookup : Lookup) : Verdict → Prop
  | blank (hspec : Spec.ofText specText = .blank) :
      Arises specText actual lookup (Grading.blank actual)
  | capture {symbol : String} (hspec : Spec.ofText specText = .capture symbol) :
      Arises specText actual lookup (Grading.capture symbol specText actual)
  | compared {kind : SpecKind} (hkind : (Spec.ofText specText).kind = kind)
      (hcompares : kind.compares = true) (found : Bool) (comparison : String) :
      Arises specText actual lookup (Grading.compared found kind comparison specText actual)
  | plain (hspec : Spec.ofText specText = .plain specText) :
      Arises specText actual lookup (Grading.plain specText lookup actual)

theorem Grading.exists_eq_compared_of_regex [Pattern.Engine] {pattern specText actual : String}
    {verdict : Verdict} (h : Grading.regex pattern specText actual = .ok verdict) :
    ∃ found comparison,
      verdict = Grading.compared found .regex comparison specText actual := by
  obtain ⟨found, -, hverdict⟩ := except_bind_eq_ok_iff.1 h
  cases hverdict
  have hpass : "pass(/" = "pass(" ++ "/" := rfl
  have hfail : "fail(/" = "fail(" ++ "/" := rfl
  cases found with
  | true =>
      refine ⟨true, "/" ++ pattern ++ "/ found in: " ++ actual, ?_⟩
      simp only [Grading.compared, if_true, hpass, String.append_assoc]
  | false =>
      refine ⟨false, "/" ++ pattern ++ "/ not found in: " ++ actual, ?_⟩
      simp only [Grading.compared, Bool.false_eq_true, if_false, hfail, String.append_assoc]

section

variable {specText actual : String} {lookup : Lookup} {verdict : Verdict}

theorem arises_of_evaluate [Pattern.Engine] (h : evaluate specText actual lookup = .ok verdict) :
    verdict.Arises specText actual lookup := by
  unfold evaluate at h
  cases hspec : Spec.ofText specText with
  | blank =>
      rw [hspec, Spec.grade] at h
      rw [← Except.ok.inj h]
      exact .blank hspec
  | capture symbol =>
      rw [hspec, Spec.grade] at h
      rw [← Except.ok.inj h]
      exact .capture hspec
  | regex pattern =>
      rw [hspec, Spec.grade] at h
      obtain ⟨found, comparison, rfl⟩ := Grading.exists_eq_compared_of_regex h
      exact .compared (by rw [hspec, Spec.kind]) rfl found comparison
  | interval _ _ _ _ | relational _ _ _ | approx _ _ =>
      rw [hspec, Spec.grade] at h
      rw [← Except.ok.inj h]
      exact .compared (by rw [hspec, Spec.kind]) rfl _ _
  | plain text =>
      rw [hspec, Spec.grade] at h
      rw [← Except.ok.inj h, Spec.eq_of_ofText_eq_plain hspec]
      rw [Spec.eq_of_ofText_eq_plain hspec] at hspec
      exact .plain hspec

end

/-! ## Messages -/

def frame : Outcome → SpecKind → String → String → String
  | .pass, _, _, shown => "pass(" ++ shown ++ ")"
  | .fail, .plain, actual, shown => "[" ++ actual ++ "] fail(" ++ shown ++ ")"
  | .fail, _, _, shown => "fail(" ++ shown ++ ")"
  | .ignore, .blank, _, shown => "ignore(" ++ shown ++ ")"
  | .ignore, _, _, shown => shown

structure Verdict.Shows (verdict : Verdict) (shown : String) : Prop where
  message : verdict.message = frame verdict.outcome verdict.kind verdict.actual shown
  mismatch : verdict.outcome = .fail → verdict.kind = .plain →
    shown = "expected [" ++ verdict.expected ++ "]"
  blank : verdict.outcome = .ignore → verdict.kind = .blank → shown = verdict.actual
  capture : verdict.outcome = .ignore → verdict.kind ≠ .blank → ∃ rest, shown = "$" ++ rest

theorem frame_compared {kind : SpecKind} (h : kind.compares = true) (found : Bool)
    (actual shown : String) :
    frame (.ofMatch found) kind actual shown =
      (if found then "pass(" else "fail(") ++ shown ++ ")" := by
  cases found with
  | true => rfl
  | false =>
      cases kind with
      | blank | capture | plain => cases h
      | _ => rfl

section

variable {specText actual : String} {lookup : Lookup} {verdict : Verdict}

theorem Grading.exists_shows_blank (actual : String) :
    ∃ shown, (Grading.blank actual).Shows shown := by
  cases hempty : actual.isEmpty with
  | true => exact ⟨"BLANK", by constructor <;> simp [Grading.blank, hempty, frame]⟩
  | false => exact ⟨actual, by constructor <;> simp [Grading.blank, hempty, frame]⟩

theorem Grading.exists_shows_plain (text : String) (lookup : Lookup) (actual : String) :
    ∃ shown, (Grading.plain text lookup actual).Shows shown := by
  cases hfound : equalTexts (substitute text lookup).compare actual with
  | true =>
      refine ⟨(substitute text lookup).display, ?_⟩
      constructor <;> simp [Grading.plain, matched, hfound, Outcome.ofMatch, frame]
  | false =>
      have hmessage : (Grading.plain text lookup actual).message =
          frame .fail .plain actual ("expected [" ++ (substitute text lookup).display ++ "]") := by
        rw [← String.toList_inj]
        simp [Grading.plain, matched, hfound, frame]
      have houtcome : (Grading.plain text lookup actual).outcome = .fail := by
        rw [outcome_plain, hfound]
        rfl
      refine ⟨_, by rw [houtcome]; exact hmessage, fun _ _ => rfl, ?_, ?_⟩
      · intro hignore
        cases houtcome.symm.trans hignore
      · intro hignore
        cases houtcome.symm.trans hignore

theorem Verdict.Arises.exists_shows (h : verdict.Arises specText actual lookup) :
    ∃ shown, verdict.Shows shown := by
  cases h with
  | blank hspec => exact Grading.exists_shows_blank actual
  | @capture symbol hspec =>
      refine ⟨"$" ++ symbol ++ "<-[" ++ actual ++ "]", rfl, nofun, nofun, ?_⟩
      intro _ _
      exact ⟨symbol ++ "<-[" ++ actual ++ "]", by simp only [String.append_assoc]⟩
  | compared hkind hcompares found comparison =>
      refine ⟨comparison, (frame_compared hcompares found actual comparison).symm, ?_, ?_, ?_⟩
      · rintro - ⟨⟩
        cases hcompares
      · rintro - ⟨⟩
        cases hcompares
      · intro hignore
        cases found <;> cases hignore
  | plain hspec => exact Grading.exists_shows_plain specText lookup actual

end

/-! ## How messages begin -/

def opening : Outcome → SpecKind → String
  | .pass, _ => "pass("
  | .fail, .plain => "["
  | .fail, _ => "fail("
  | .ignore, .blank => "ignore("
  | .ignore, _ => "$"

def openings : List String := ["pass(", "[", "fail(", "ignore(", "$"]

theorem opening_mem_openings (outcome : Outcome) (kind : SpecKind) :
    opening outcome kind ∈ openings := by
  cases outcome <;> cases kind <;> decide

theorem opening_eq_of_isPrefix {first second : String} (hfirst : first ∈ openings)
    (hsecond : second ∈ openings) (h : first.toList <+: second.toList) : first = second := by
  have hopenings : ∀ first ∈ openings, ∀ second ∈ openings,
      first.toList <+: second.toList → first = second := by decide
  exact hopenings first hfirst second hsecond h

theorem Verdict.Shows.message_opens {verdict : Verdict} {shown : String}
    (h : verdict.Shows shown) :
    (opening verdict.outcome verdict.kind).toList <+: verdict.message.toList := by
  obtain ⟨outcome, message, kind, expected, actual, binding⟩ := verdict
  obtain ⟨hmessage, -, -, hcapture⟩ := h
  dsimp only at hmessage hcapture ⊢
  subst hmessage
  cases outcome with
  | pass => simp [opening, frame]
  | fail => cases kind <;> simp [opening, frame]
  | ignore =>
      cases kind with
      | blank => simp [opening, frame]
      | _ =>
          obtain ⟨rest, rfl⟩ := hcapture rfl (by decide)
          simp [opening, frame]

theorem Verdict.Shows.opens_iff {verdict : Verdict} {shown mark : String}
    (h : verdict.Shows shown) (hmark : mark ∈ openings) :
    mark.toList <+: verdict.message.toList ↔ opening verdict.outcome verdict.kind = mark := by
  constructor
  · intro hprefix
    have hopening := opening_mem_openings verdict.outcome verdict.kind
    rcases List.prefix_or_prefix_of_prefix h.message_opens hprefix with hle | hle
    · exact opening_eq_of_isPrefix hopening hmark hle
    · exact (opening_eq_of_isPrefix hmark hopening hle).symm
  · rintro rfl
    exact h.message_opens

/-! ## Well-formed verdicts -/

/-- The fields of a verdict agree with each other, with the cell and with the actual
text, and the message alone tells the outcome. -/
structure Verdict.WellFormed (verdict : Verdict) (specText actual : String) (lookup : Lookup) :
    Prop where
  kind_eq : verdict.kind = (Spec.ofText specText).kind
  actual_eq : verdict.actual = actual
  isSome_binding : verdict.binding.isSome = true ↔ verdict.kind = .capture
  /-- What is bound is the name between `$` and `=`, to the actual text. -/
  binding_eq : verdict.kind = .capture → ∃ name, IsName name ∧
    (trim specText).toList = '$' :: (name ++ ['=']) ∧
      verdict.binding = some ⟨.ofList name, actual⟩
  ignore_iff : verdict.outcome = .ignore ↔
    verdict.kind = .capture ∨ verdict.kind = .blank ∧ actual ≠ ""
  not_fail_of_blank : verdict.kind = .blank → verdict.outcome ≠ .fail
  expected_blank : verdict.kind = .blank → verdict.expected = ""
  expected_plain : verdict.kind = .plain →
    verdict.expected = (substitute specText lookup).display
  expected_trim : verdict.kind ≠ .blank → verdict.kind ≠ .plain →
    verdict.expected = trim specText
  says_pass_iff : "pass(".toList <+: verdict.message.toList ↔ verdict.outcome = .pass
  says_fail_iff :
    "fail(".toList <+: verdict.message.toList ∨ "[".toList <+: verdict.message.toList ↔
      verdict.outcome = .fail
  says_ignore_iff :
    "ignore(".toList <+: verdict.message.toList ∨ "$".toList <+: verdict.message.toList ↔
      verdict.outcome = .ignore
  says_mismatch_iff : "[".toList <+: verdict.message.toList ↔
    verdict.kind = .plain ∧ verdict.outcome = .fail

section

variable {specText actual : String} {lookup : Lookup} {verdict : Verdict}

theorem ofMatch_ne_ignore (found : Bool) : Outcome.ofMatch found ≠ .ignore := by
  cases found <;> nofun

namespace Verdict.Arises

theorem kind_eq (h : verdict.Arises specText actual lookup) :
    verdict.kind = (Spec.ofText specText).kind := by
  cases h with
  | compared hkind => exact hkind.symm
  | blank hspec | capture hspec | plain hspec => rw [hspec]; rfl

theorem actual_eq (h : verdict.Arises specText actual lookup) : verdict.actual = actual := by
  cases h <;> rfl

theorem eq_blank (h : verdict.Arises specText actual lookup) (hkind : verdict.kind = .blank) :
    verdict = Grading.blank actual := by
  cases h with
  | blank => rfl
  | capture | plain => cases hkind
  | compared _ hcompares =>
      cases hkind
      cases hcompares

theorem eq_capture (h : verdict.Arises specText actual lookup)
    (hkind : verdict.kind = .capture) :
    ∃ symbol, Spec.ofText specText = .capture symbol ∧
      verdict = Grading.capture symbol specText actual := by
  cases h with
  | blank | plain => cases hkind
  | capture hspec => exact ⟨_, hspec, rfl⟩
  | compared _ hcompares =>
      cases hkind
      cases hcompares

theorem eq_plain (h : verdict.Arises specText actual lookup) (hkind : verdict.kind = .plain) :
    verdict = Grading.plain specText lookup actual := by
  cases h with
  | blank | capture => cases hkind
  | plain => rfl
  | compared _ hcompares =>
      cases hkind
      cases hcompares

theorem isSome_binding (h : verdict.Arises specText actual lookup) :
    verdict.binding.isSome = true ↔ verdict.kind = .capture := by
  constructor
  · intro hbinding
    cases h with
    | capture => rfl
    | blank | compared | plain => cases hbinding
  · intro hkind
    obtain ⟨symbol, -, rfl⟩ := h.eq_capture hkind
    rfl

theorem binding_eq (h : verdict.Arises specText actual lookup) (hkind : verdict.kind = .capture) :
    ∃ name, IsName name ∧ (trim specText).toList = '$' :: (name ++ ['=']) ∧
      verdict.binding = some ⟨.ofList name, actual⟩ := by
  obtain ⟨symbol, hspec, rfl⟩ := h.eq_capture hkind
  obtain ⟨name, rfl, hname, hchars⟩ := Spec.exists_name_of_ofText_eq_capture hspec
  exact ⟨name, hname, by rw [toList_trim]; exact hchars, rfl⟩

theorem ignore_iff (h : verdict.Arises specText actual lookup) :
    verdict.outcome = .ignore ↔ verdict.kind = .capture ∨ verdict.kind = .blank ∧ actual ≠ "" := by
  constructor
  · intro hignore
    cases h with
    | blank => exact .inr ⟨rfl, by simpa [Grading.blank] using hignore⟩
    | capture => exact .inl rfl
    | compared _ _ found => exact absurd hignore (ofMatch_ne_ignore found)
    | plain =>
        rw [Grading.outcome_plain] at hignore
        exact absurd hignore (ofMatch_ne_ignore _)
  · rintro (hkind | ⟨hkind, hne⟩)
    · obtain ⟨symbol, -, rfl⟩ := h.eq_capture hkind
      rfl
    · rw [h.eq_blank hkind]
      simp [Grading.blank, hne]

theorem not_fail_of_blank (h : verdict.Arises specText actual lookup)
    (hkind : verdict.kind = .blank) : verdict.outcome ≠ .fail := by
  rw [h.eq_blank hkind]
  intro hfail
  cases hempty : actual.isEmpty <;> simp [Grading.blank, hempty] at hfail

theorem expected_blank (h : verdict.Arises specText actual lookup)
    (hkind : verdict.kind = .blank) : verdict.expected = "" := by
  rw [h.eq_blank hkind, Grading.blank]

theorem expected_plain (h : verdict.Arises specText actual lookup)
    (hkind : verdict.kind = .plain) :
    verdict.expected = (substitute specText lookup).display := by
  rw [h.eq_plain hkind]
  rfl

theorem expected_trim (h : verdict.Arises specText actual lookup)
    (hblank : verdict.kind ≠ .blank) (hplain : verdict.kind ≠ .plain) :
    verdict.expected = trim specText := by
  cases h with
  | blank => exact absurd rfl hblank
  | plain => exact absurd rfl hplain
  | capture | compared => rfl

end Verdict.Arises

theorem evaluate_wellFormed [Pattern.Engine] (h : evaluate specText actual lookup = .ok verdict) :
    verdict.WellFormed specText actual lookup := by
  have harises := arises_of_evaluate h
  obtain ⟨shown, hshows⟩ := harises.exists_shows
  have hopens : ∀ mark ∈ openings, (mark.toList <+: verdict.message.toList ↔
      opening verdict.outcome verdict.kind = mark) := fun _ hmark => hshows.opens_iff hmark
  exact {
    kind_eq := harises.kind_eq
    actual_eq := harises.actual_eq
    isSome_binding := harises.isSome_binding
    binding_eq := harises.binding_eq
    ignore_iff := harises.ignore_iff
    not_fail_of_blank := harises.not_fail_of_blank
    expected_blank := harises.expected_blank
    expected_plain := harises.expected_plain
    expected_trim := harises.expected_trim
    says_pass_iff := by
      rw [hopens "pass(" (by decide)]
      cases verdict.outcome <;> cases verdict.kind <;> decide
    says_fail_iff := by
      rw [hopens "fail(" (by decide), hopens "[" (by decide)]
      cases verdict.outcome <;> cases verdict.kind <;> decide
    says_ignore_iff := by
      rw [hopens "ignore(" (by decide), hopens "$" (by decide)]
      cases verdict.outcome <;> cases verdict.kind <;> decide
    says_mismatch_iff := by
      rw [hopens "[" (by decide)]
      cases verdict.outcome <;> cases verdict.kind <;> decide }

theorem evaluate_wellFormed_capture :
    ∃ verdict, evaluate " $Ab_1=\n" "fail($x=) [" .nothing = .ok verdict ∧
      verdict.WellFormed " $Ab_1=\n" "fail($x=) [" .nothing :=
  ⟨_, rfl, evaluate_wellFormed rfl⟩

end

end CellGrading
