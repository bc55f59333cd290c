import CellGrading.Proofs.Text.Stretch
import CellGrading.Verdict.Markup

/-!
# Markup that its data cannot break

Escaped text is inert: it has no character that markup is made of.  As a verdict
is shown as inert text, in one element and in front of it, the element is the only
one, whatever the verdict says.
-/

namespace CellGrading.Markup

open Text

/-! ## Inert text -/

def entities : List (List Char) :=
  ["&amp;".toList, "&lt;".toList, "&gt;".toList, "&quot;".toList]

structure Inert (text : List Char) : Prop where
  not_markup : ∀ c ∈ text, c ≠ '<' ∧ c ≠ '>' ∧ c ≠ '"'
  entity : ∀ before after, text = before ++ '&' :: after →
    ∃ entity ∈ entities, entity <+: '&' :: after

namespace Inert

theorem nil : Inert [] := ⟨by simp, by simp⟩

theorem append {first second : List Char} (hfirst : Inert first) (hsecond : Inert second) :
    Inert (first ++ second) := by
  constructor
  · intro c hc
    rcases List.mem_append.1 hc with hc | hc
    · exact hfirst.not_markup c hc
    · exact hsecond.not_markup c hc
  · intro before after htext
    rcases List.append_eq_append_iff.1 htext with ⟨rest, -, hrest⟩ | ⟨rest, hleft, hrest⟩
    · exact hsecond.entity rest after hrest
    · cases rest with
      | nil => exact hsecond.entity [] after (by simpa using hrest.symm)
      | cons c rest =>
          rw [List.cons_append, List.cons.injEq] at hrest
          obtain ⟨rfl, rfl⟩ := hrest
          obtain ⟨entity, hentity, hprefix⟩ := hfirst.entity before rest hleft
          exact ⟨entity, hentity, hprefix.trans (List.prefix_append ('&' :: rest) second)⟩

theorem singleton {c : Char} (hmarkup : c ≠ '<' ∧ c ≠ '>' ∧ c ≠ '"') (hamp : c ≠ '&') :
    Inert [c] := by
  constructor
  · simpa using hmarkup
  · intro before after htext
    have hmem : '&' ∈ [c] := by
      rw [htext]
      simp
    exact absurd (List.mem_singleton.1 hmem).symm hamp

theorem of_mem_entities {entity : List Char} (h : entity ∈ entities) : Inert entity := by
  have hmarkup : ∀ entity ∈ entities, ∀ c ∈ entity, c ≠ '<' ∧ c ≠ '>' ∧ c ≠ '"' := by
    simp [entities]
  have htail : ∀ entity ∈ entities, '&' ∉ entity.tail := by decide
  refine ⟨hmarkup entity h, ?_⟩
  intro before after htext
  cases before with
  | nil => exact ⟨entity, h, by rw [htext]; exact List.prefix_rfl⟩
  | cons c before =>
      refine absurd ?_ (htail entity h)
      simp [htext]

end Inert

theorem inert_escapeChar (c : Char) : Inert (escapeChar c) := by
  unfold escapeChar
  split
  · exact .of_mem_entities (by decide)
  · exact .of_mem_entities (by decide)
  · exact .of_mem_entities (by decide)
  · exact .of_mem_entities (by decide)
  · next hamp hlt hgt hquot => exact .singleton ⟨hlt, hgt, hquot⟩ hamp

theorem inert_escape (text : String) : Inert (escape text).toList := by
  rw [escape, String.toList_ofList]
  induction text.toList with
  | nil => exact .nil
  | cons c rest ih => exact (inert_escapeChar c).append ih

/-! ## Elements -/

def element (name body : List Char) : List Char :=
  '<' :: ("span class=\"".toList ++
    (name ++ '"' :: '>' :: (body ++ '<' :: "/span>".toList)))

theorem toList_span (outcome : Outcome) (text : String) :
    (span outcome text).toList = element outcome.name.toList (escape text).toList := by
  unfold span
  simp [element]

theorem not_mem_name (outcome : Outcome) :
    '<' ∉ outcome.name.toList ∧ '"' ∉ outcome.name.toList := by
  cases outcome <;> decide

theorem split_at_unique {mark : Char} {first second rest rest' : List Char}
    (hfirst : mark ∉ first) (hsecond : mark ∉ second)
    (h : first ++ mark :: rest = second ++ mark :: rest') : first = second ∧ rest = rest' := by
  have hsort {text : List Char} (htext : mark ∉ text) : ∀ c ∈ text, (c != mark) = true := by
    intro c hc
    rw [bne_iff_ne]
    rintro rfl
    exact htext hc
  have hstop (rest : List Char) : StopsAt (· != mark) (mark :: rest) := by simp
  obtain ⟨hparts, hrest⟩ := run_unique (hsort hfirst) (hstop rest) (hsort hsecond) (hstop rest') h
  exact ⟨hparts, (List.cons.inj hrest).2⟩

/-- What the parts of a text are free of, the parts of another reading of it around
the same marks are free of too. -/
theorem not_mem_of_same_marks {mark : Char} {opening middle closing : List Char}
    {lead name body before name' body' after : List Char}
    (hlead : mark ∉ lead) (hname : mark ∉ name) (hbody : mark ∉ body)
    (h : lead ++ (opening ++ (name ++ (middle ++ (body ++ closing)))) =
      before ++ (opening ++ (name' ++ (middle ++ (body' ++ (closing ++ after)))))) :
    mark ∉ before ∧ mark ∉ name' ∧ mark ∉ body' := by
  have hcounts := congrArg (List.count mark) h
  simp only [List.count_append] at hcounts
  rw [List.count_eq_zero_of_not_mem hlead, List.count_eq_zero_of_not_mem hname,
    List.count_eq_zero_of_not_mem hbody] at hcounts
  refine ⟨?_, ?_, ?_⟩ <;> rw [← List.count_eq_zero] <;> omega

theorem element_unique {lead body : List Char} (hlead : Inert lead) (hbody : Inert body)
    (outcome : Outcome) {before name inner after : List Char}
    (h : lead ++ element outcome.name.toList body = before ++ (element name inner ++ after)) :
    before = lead ∧ name = outcome.name.toList ∧ inner = body ∧ after = [] := by
  obtain ⟨hnameLt, hnameQuot⟩ := not_mem_name outcome
  have hleadLt : '<' ∉ lead := fun hmem => (hlead.not_markup '<' hmem).1 rfl
  have hleadQuot : '"' ∉ lead := fun hmem => (hlead.not_markup '"' hmem).2.2 rfl
  have hbodyLt : '<' ∉ body := fun hmem => (hbody.not_markup '<' hmem).1 rfl
  have hbodyQuot : '"' ∉ body := fun hmem => (hbody.not_markup '"' hmem).2.2 rfl
  have hmarks : lead ++ (('<' :: "span class=\"".toList) ++ (outcome.name.toList ++
      (['"', '>'] ++ (body ++ ('<' :: "/span>".toList))))) =
      before ++ (('<' :: "span class=\"".toList) ++ (name ++
        (['"', '>'] ++ (inner ++ (('<' :: "/span>".toList) ++ after))))) := by
    simpa only [element, List.append_assoc, List.cons_append, List.nil_append] using h
  obtain ⟨hbeforeLt, -, hinnerLt⟩ := not_mem_of_same_marks hleadLt hnameLt hbodyLt hmarks
  obtain ⟨-, hnameQuot', -⟩ := not_mem_of_same_marks hleadQuot hnameQuot hbodyQuot hmarks
  simp only [List.cons_append, List.nil_append] at hmarks
  obtain ⟨rfl, htag⟩ := split_at_unique hleadLt hbeforeLt hmarks
  obtain ⟨rfl, hinside⟩ := split_at_unique hnameQuot hnameQuot' (List.append_cancel_left htag)
  obtain ⟨rfl, hend⟩ := split_at_unique hbodyLt hinnerLt (List.cons.inj hinside).2
  exact ⟨rfl, rfl, rfl, by simpa using hend.symm⟩

/-! ## Verdicts -/

def lead (verdict : Verdict) : String :=
  if verdict.outcome = .fail ∧ verdict.kind = .plain then
    "[" ++ escape verdict.actual ++ "] "
  else ""

theorem inert_lead (verdict : Verdict) : Inert (lead verdict).toList := by
  unfold lead
  split
  · rw [String.toList_append, String.toList_append]
    refine (Inert.append ?_ (inert_escape _)).append ?_
    · exact .singleton (by decide) (by decide)
    · exact (Inert.singleton (c := ']') (by decide) (by decide)).append
        (.singleton (c := ' ') (by decide) (by decide))
  · exact .nil

theorem exists_render_eq (verdict : Verdict) :
    ∃ shown, render verdict = lead verdict ++ span verdict.outcome shown := by
  obtain ⟨outcome, message, kind, expected, actual, binding⟩ := verdict
  cases outcome with
  | pass => exact ⟨payload "pass(" message, by simp [render, lead]⟩
  | fail =>
      cases kind with
      | plain => exact ⟨"expected [" ++ expected ++ "]", by simp [render, lead]⟩
      | _ => exact ⟨payload "fail(" message, by simp [render, lead]⟩
  | ignore =>
      cases kind with
      | blank => exact ⟨actual, by simp [render, lead]⟩
      | _ => exact ⟨message, by simp [render, lead]⟩

/-- A verdict of any kind is shown as one element with the class of its outcome,
behind the actual text if it is a plain failure.  Around and inside the element
there is inert text only, so the output can be read as an element in no other way. -/
theorem render_eq_one_element (verdict : Verdict) :
    ∃ body : String,
      render verdict =
        lead verdict ++ "<span class=\"" ++ verdict.outcome.name ++ "\">" ++ body ++ "</span>" ∧
      Inert (lead verdict).toList ∧ Inert body.toList ∧
      ∀ before name inner after : List Char,
        (render verdict).toList = before ++ (element name inner ++ after) →
        before = (lead verdict).toList ∧ name = verdict.outcome.name.toList ∧
          inner = body.toList ∧ after = [] := by
  obtain ⟨shown, hrender⟩ := exists_render_eq verdict
  refine ⟨escape shown, ?_, inert_lead verdict, inert_escape shown, ?_⟩
  · rw [hrender]
    unfold span
    simp only [String.append_assoc]
  · intro before name inner after h
    rw [hrender, String.toList_append, toList_span] at h
    exact element_unique (inert_lead verdict) (inert_escape shown) verdict.outcome h

end CellGrading.Markup
