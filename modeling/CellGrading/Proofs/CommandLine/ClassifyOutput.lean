import CellGrading.Pattern.Basic
import CellGrading.CommandLine.Running
import CellGrading.Proofs.CommandLine.Reply
import CellGrading.Proofs.Record.SpecReading
import CellGrading.Proofs.Spec.Classification
import CellGrading.Proofs.Verdict.Noninterference

/-!
# Classifications as printed

What is printed for the text of a cell is enough to tell its spec, and so how any value
is graded against it.  The values of literals are not printed; they are those that the
printed texts write.
-/

namespace CellGrading

open Text

/-! ## Literals of a spec -/

def Spec.literals : Spec → List Literal
  | .interval low _ _ high => [low, high]
  | .relational _ _ operand => [operand]
  | .approx _ operand => [operand]
  | _ => []

theorem Form.operand_suffix_chars (negated : Bool) (comparator : Shape.Comparator)
    (gap operand : List Char) :
    operand <:+ (Form.comparison negated comparator gap operand).chars :=
  ⟨mark negated ++ (comparator.symbol.toList ++ gap), by simp [chars]⟩

theorem Form.Means.literal_infix_chars {form : Form} {spec : Spec} (h : form.Means spec) :
    ∀ literal ∈ spec.literals, literal.text.toList <:+: form.chars := by
  cases h with
  | capture | regex => simp [Spec.literals]
  | @interval lowText gap₁ gap₂ gap₃ gap₄ highText lowOp highOp low high hlow hhigh =>
      simp only [Spec.literals, List.mem_cons, List.not_mem_nil, or_false, forall_eq_or_imp,
        forall_eq, hlow, hhigh]
      constructor
      · exact (List.prefix_append lowText _).isInfix
      · exact ⟨lowText ++ (gap₁ ++ (lowOp.symbol.toList ++ (gap₂ ++
          '_' :: (gap₃ ++ (highOp.symbol.toList ++ gap₄))))), [], by simp [Form.chars]⟩
  | relational htext | approx htext =>
      simp only [Spec.literals, List.mem_singleton, forall_eq, htext]
      exact (Form.operand_suffix_chars ..).isInfix

theorem Spec.literal_infix_of_ofText (text : String) :
    ∀ literal ∈ (ofText text).literals, literal.text.toList <:+: text.toList := by
  have hclassifies := classifies_ofText text
  generalize ofText text = spec at hclassifies
  cases hclassifies with
  | blank | plain => simp [literals]
  | shaped hform hmeans =>
      intro literal hliteral
      obtain ⟨before, after, -, -, htext⟩ := exists_trimChars text.toList
      have hchars := hmeans.literal_infix_chars literal hliteral
      rw [← hform.2] at hchars
      exact hchars.trans ⟨before, after, htext.symm⟩

namespace CommandLine

/-! ## What is printed -/

theorem ofArguments_classify (text : String) :
    Command.ofArguments ["classify", "--", text] = .ok (.classify text) :=
  rfl

section

variable (read : FileReader) {arguments others : List String} {first second : String}

theorem decode_output_classify [Pattern.Engine]
    (h : Command.ofArguments arguments = .ok (.classify first)) :
    Json.decode Spec.decode (reply read arguments).output = .ok (Spec.ofText first) := by
  rw [reply_of_command read h, Command.perform, Reply.ofFinding, line, Json.decode_pretty_line,
    Spec.decode_toJson]

theorem output_classify_eq_iff [Pattern.Engine]
    (h : Command.ofArguments arguments = .ok (.classify first))
    (h' : Command.ofArguments others = .ok (.classify second)) :
    (reply read arguments).output = (reply read others).output ↔
      Spec.ofText first = Spec.ofText second := by
  constructor
  · intro houtput
    have hdecode := decode_output_classify read h
    rw [houtput, decode_output_classify read h'] at hdecode
    exact (Except.ok.inj hdecode).symm
  · intro hspec
    rw [reply_of_command read h, reply_of_command read h', Command.perform, Command.perform, hspec]

end

/-- The same is printed for two texts just if they stand for the same spec, and then any
value is graded alike against either.  The spec keeps of each literal the text that is
written, which has no blanks around it and writes the value. -/
theorem classify_lossless [Pattern.Engine] (read : FileReader) :
    (∀ text, Command.ofArguments ["classify", "--", text] = .ok (.classify text)) ∧
    (∀ arguments others first second,
      Command.ofArguments arguments = .ok (.classify first) →
      Command.ofArguments others = .ok (.classify second) →
      ((reply read arguments).output = (reply read others).output ↔
        Spec.ofText first = Spec.ofText second) ∧
      ((reply read arguments).output = (reply read others).output →
        ∀ actual lookup,
          GradedAlike (evaluate first actual lookup) (evaluate second actual lookup))) ∧
    (∀ text, ∀ literal ∈ (Spec.ofText text).literals,
      literal.text.toList <:+: text.toList ∧ Text.trim literal.text = literal.text ∧
        Numeral.IsLiteral literal.text.toList ∧
        Decimal.ofText? literal.text = some literal.value) := by
  refine ⟨ofArguments_classify, ?_, ?_⟩
  · intro arguments others first second hfirst hsecond
    have hiff := output_classify_eq_iff read hfirst hsecond
    refine ⟨hiff, fun houtput actual lookup => ?_⟩
    rw [evaluate, evaluate, hiff.1 houtput]
    exact Spec.gradedAlike_texts ..
  · intro text literal hliteral
    exact ⟨Spec.literal_infix_of_ofText text literal hliteral, literal.trim_text,
      literal.isLiteral_text, literal.ofText?_text⟩

/-- Texts of one spec with different blanks, and of another with a literal of the same
value. -/
theorem classify_lossless_blanks :
    (reply (fun _ => .error .notFound) ["classify", " !~= 5.0"]).output =
        (reply (fun _ => .error .notFound) ["classify", "--", "!~=\u30005.0\n"]).output ∧
      GradedAlike (evaluate " !~= 5.0" "5.04" .nothing)
        (evaluate "!~=\u30005.0\n" "5.04" .nothing) ∧
      (reply (fun _ => .error .notFound) ["classify", " !~= 5.0"]).output ≠
        (reply (fun _ => .error .notFound) ["classify", "--", "!~= 5.00"]).output := by
  obtain ⟨hclassify, hlossless, -⟩ := classify_lossless fun _ => .error .notFound
  have hfirst : Command.ofArguments ["classify", " !~= 5.0"] = .ok (.classify " !~= 5.0") := by
    decide
  obtain ⟨hsame, halike⟩ := hlossless _ _ _ _ hfirst (hclassify "!~=\u30005.0\n")
  obtain ⟨hother, -⟩ := hlossless _ _ _ _ hfirst (hclassify "!~= 5.00")
  have houtput := hsame.2 (by decide)
  exact ⟨houtput, halike houtput "5.04" .nothing, mt hother.1 (by decide)⟩

end CommandLine

end CellGrading
