import CellGrading.Proofs.Pattern.Substring
import CellGrading.Proofs.Verdict.Numeric

/-!
# Verdicts on patterns

A cell that asks for a pattern names all that stands between its slashes, blanks and
other slashes included.  The value passes when the expression of the pattern is found in
it, which for a pattern without signs is wherever the pattern itself stands in it.
-/

namespace CellGrading

open Text

section

variable {before after : List Char}

theorem Spec.ofText_pattern (hbefore : Blanks before) (hafter : Blanks after)
    (pattern : String) :
    ofText (.ofList before ++ "=~/" ++ pattern ++ "/" ++ .ofList after) = .regex pattern := by
  have hchars : (String.ofList before ++ "=~/" ++ pattern ++ "/" ++ .ofList after).toList =
      before ++ (Form.regex pattern.toList).chars ++ after := by
    simp [Form.chars]
  have hspells := (Form.spells_iff (.regex pattern.toList) _).2
    ⟨trivial, before, after, hbefore, hafter, hchars⟩
  rw [ofText_of_spells hspells .regex, String.ofList_toList]

/-- A pattern that means an expression is never in error, and the value passes when the
expression accepts a stretch of it. -/
theorem exists_evaluate_pattern (hbefore : Blanks before) (hafter : Blanks after)
    {pattern : String} {regex : Pattern.Regex} (hregex : Pattern.compile? pattern = some regex)
    (actual : String) (lookup : Lookup) :
    ∃ verdict,
      evaluate (.ofList before ++ "=~/" ++ pattern ++ "/" ++ .ofList after) actual lookup =
        .ok verdict ∧
      verdict.kind = .regex ∧ verdict.Decides (regex.FoundIn actual.toList) := by
  obtain ⟨found, hsearch, hfound⟩ := Pattern.exists_search_of_compile? hregex actual
  rw [evaluate, Spec.ofText_pattern hbefore hafter, Spec.grade, Grading.regex, hsearch]
  exact ⟨_, rfl, rfl, decides_matched hfound _ _ _ _⟩

/-- A pattern without signs is taken as it is written, and the value passes when it
contains the pattern and fails when it does not. -/
theorem evaluate_signless_pattern {pattern : String} (hpattern : Pattern.Signless pattern.toList)
    (hbefore : Blanks before) (hafter : Blanks after) (actual : String) (lookup : Lookup) :
    Spec.ofText (.ofList before ++ "=~/" ++ pattern ++ "/" ++ .ofList after) =
        .regex pattern ∧
      ∃ verdict,
        evaluate (.ofList before ++ "=~/" ++ pattern ++ "/" ++ .ofList after) actual lookup =
          .ok verdict ∧
        verdict.kind = .regex ∧ verdict.Decides (pattern.toList <:+: actual.toList) := by
  have hregex := Pattern.compile?_of_signless hpattern
  obtain ⟨verdict, heval, hkind, hdecides⟩ :=
    exists_evaluate_pattern hbefore hafter hregex actual lookup
  rw [Pattern.Regex.foundIn_ofChars_iff] at hdecides
  exact ⟨Spec.ofText_pattern hbefore hafter pattern, verdict, heval, hkind, hdecides⟩

theorem evaluate_signless_pattern_slashes :
    Pattern.Signless " a/b\n/ ".toList ∧ Blanks ['\u3000', '\n'] ∧ Blanks ['\t'] ∧
      Spec.ofText "\u3000\n=~/ a/b\n/ /\t" = .regex " a/b\n/ " ∧
      (∃ verdict, evaluate "\u3000\n=~/ a/b\n/ /\t" "($x) a/b\n/ é" .nothing = .ok verdict ∧
        verdict.kind = .regex ∧ verdict.outcome = .pass) ∧
      ∃ verdict, evaluate "\u3000\n=~/ a/b\n/ /\t" "a/b\n/" .nothing = .ok verdict ∧
        verdict.kind = .regex ∧ verdict.outcome = .fail := by
  have hpattern : Pattern.Signless " a/b\n/ ".toList := by decide
  have hbefore : Blanks ['\u3000', '\n'] := by decide
  have hafter : Blanks ['\t'] := by decide
  obtain ⟨hspec, found, hfound, hkind, hpass⟩ :=
    evaluate_signless_pattern hpattern hbefore hafter "($x) a/b\n/ é" .nothing
  obtain ⟨-, missed, hmissed, hmissedKind, hfail⟩ :=
    evaluate_signless_pattern hpattern hbefore hafter "a/b\n/" .nothing
  refine ⟨hpattern, hbefore, hafter, hspec, ⟨found, hfound, hkind, hpass.1.2 ?_⟩,
    missed, hmissed, hmissedKind, hfail.2.2 ?_⟩
  · exact ⟨"($x)".toList, "é".toList, rfl⟩
  · decide

end

end CellGrading
