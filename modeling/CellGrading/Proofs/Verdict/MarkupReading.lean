import CellGrading.Pattern.Basic
import CellGrading.Proofs.Verdict.Markup
import CellGrading.Proofs.Verdict.WellFormed

/-!
# Markup read back

Escaping can be undone, so the markup of a graded value still says what its message
says: the text in the element is what the message shows, and the rest of the message
follows from the outcome and from the text in front of the element.
-/

namespace CellGrading.Markup

/-! ## Undoing escapes -/

def unescapeChars : List Char → List Char
  | '&' :: 'a' :: 'm' :: 'p' :: ';' :: rest => '&' :: unescapeChars rest
  | '&' :: 'l' :: 't' :: ';' :: rest => '<' :: unescapeChars rest
  | '&' :: 'g' :: 't' :: ';' :: rest => '>' :: unescapeChars rest
  | '&' :: 'q' :: 'u' :: 'o' :: 't' :: ';' :: rest => '"' :: unescapeChars rest
  | c :: rest => c :: unescapeChars rest
  | [] => []

def unescape (text : String) : String := .ofList (unescapeChars text.toList)

theorem unescapeChars_cons {c : Char} (h : c ≠ '&') (rest : List Char) :
    unescapeChars (c :: rest) = c :: unescapeChars rest := by
  rw [unescapeChars.eq_def]
  split
  · next heq => exact absurd (List.cons.inj heq).1 h
  · next heq => exact absurd (List.cons.inj heq).1 h
  · next heq => exact absurd (List.cons.inj heq).1 h
  · next heq => exact absurd (List.cons.inj heq).1 h
  · next heq => cases heq; rfl
  · next heq => cases heq

theorem unescapeChars_escapeChar (c : Char) (rest : List Char) :
    unescapeChars (escapeChar c ++ rest) = c :: unescapeChars rest := by
  unfold escapeChar
  split
  · rfl
  · rfl
  · rfl
  · rfl
  · next hamp _ _ _ => exact unescapeChars_cons hamp rest

theorem unescapeChars_escaped (text rest : List Char) :
    unescapeChars (text.flatMap escapeChar ++ rest) = text ++ unescapeChars rest := by
  induction text with
  | nil => rfl
  | cons c text ih =>
      rw [List.flatMap_cons, List.append_assoc, unescapeChars_escapeChar, ih, List.cons_append]

@[simp] theorem unescape_escape (text : String) : unescape (escape text) = text := by
  have h := unescapeChars_escaped text.toList []
  rw [List.append_nil, unescapeChars, List.append_nil] at h
  rw [unescape, escape, String.toList_ofList, h, String.ofList_toList]

theorem escape_injective : Function.Injective escape :=
  Function.LeftInverse.injective unescape_escape

theorem unescape_lead (verdict : Verdict) :
    unescape (lead verdict) =
      if verdict.outcome = .fail ∧ verdict.kind = .plain then "[" ++ verdict.actual ++ "] "
      else "" := by
  unfold lead
  split
  · have hchars : unescapeChars ('[' :: (verdict.actual.toList.flatMap escapeChar ++ [']', ' '])) =
        '[' :: (verdict.actual.toList ++ [']', ' ']) := by
      rw [unescapeChars_cons (by decide), unescapeChars_escaped]
      rfl
    rw [← String.toList_inj]
    simpa [unescape, escape] using hchars
  · rfl

/-! ## What the element shows -/

theorem wrapped?_frame (opening shown : String) :
    wrapped? opening.toList (opening ++ shown ++ ")").toList = some shown.toList := by
  simp [wrapped?]

theorem payload_frame (opening shown : String) :
    payload opening (opening ++ shown ++ ")") = shown := by
  rw [payload, wrapped?_frame]
  exact String.ofList_toList

section

variable {verdict : Verdict} {shown : String}

theorem render_of_shows (h : verdict.Shows shown) :
    render verdict = lead verdict ++ span verdict.outcome shown := by
  obtain ⟨outcome, message, kind, expected, actual, binding⟩ := verdict
  obtain ⟨hmessage, hmismatch, hblank, -⟩ := h
  dsimp only at hmessage hmismatch hblank
  subst hmessage
  cases outcome with
  | pass => simp [render, lead, frame, payload_frame]
  | fail =>
      cases kind with
      | plain => simp [render, lead, hmismatch rfl rfl]
      | _ => simp [render, lead, frame, payload_frame]
  | ignore =>
      cases kind with
      | blank => simp [render, lead, hblank rfl rfl]
      | _ => simp [render, lead, frame]

theorem message_of_fail (h : verdict.Shows shown) (hfail : verdict.outcome = .fail) :
    verdict.message = unescape (lead verdict) ++ "fail(" ++ shown ++ ")" := by
  rw [h.message, unescape_lead, hfail]
  cases hkind : verdict.kind with
  | plain =>
      rw [← String.toList_inj]
      simp [frame]
  | _ => simp [frame]

theorem payload_of_pass (h : verdict.Shows shown) (hpass : verdict.outcome = .pass) :
    verdict.message = "pass(" ++ shown ++ ")" ∧
      wrapped? "pass(".toList verdict.message.toList = some shown.toList := by
  have hmessage : verdict.message = "pass(" ++ shown ++ ")" := by
    rw [h.message, hpass, frame]
  exact ⟨hmessage, by rw [hmessage, wrapped?_frame]⟩

theorem payload_of_fail (h : verdict.Shows shown) (hfail : verdict.outcome = .fail)
    (hkind : verdict.kind ≠ .plain) :
    verdict.message = "fail(" ++ shown ++ ")" ∧
      wrapped? "fail(".toList verdict.message.toList = some shown.toList := by
  have hmessage : verdict.message = "fail(" ++ shown ++ ")" := by
    rw [message_of_fail h hfail, unescape_lead, if_neg fun hplain => hkind hplain.2,
      String.empty_append]
  exact ⟨hmessage, by rw [hmessage, wrapped?_frame]⟩

theorem message_eq_of_render_eq {other : Verdict} {shown' : String} (h : verdict.Shows shown)
    (h' : other.Shows shown') (houtcome : other.outcome = verdict.outcome)
    (hignore : verdict.outcome ≠ .ignore) (hrender : render other = render verdict) :
    other.message = verdict.message := by
  rw [render_of_shows h, render_of_shows h', houtcome, ← String.toList_inj] at hrender
  simp only [String.toList_append, toList_span] at hrender
  have hwhole : (lead verdict).toList ++ element verdict.outcome.name.toList (escape shown).toList =
      (lead other).toList ++ (element verdict.outcome.name.toList (escape shown').toList ++ []) := by
    rw [List.append_nil, hrender]
  obtain ⟨hlead, -, hbody, -⟩ :=
    element_unique (inert_lead verdict) (inert_escape shown) verdict.outcome hwhole
  have hshown : shown' = shown := escape_injective (String.toList_inj.1 hbody)
  cases hcase : verdict.outcome with
  | pass =>
      rw [(payload_of_pass h hcase).1, (payload_of_pass h' (houtcome.trans hcase)).1, hshown]
  | fail =>
      rw [message_of_fail h hcase, message_of_fail h' (houtcome.trans hcase), hshown,
        String.toList_inj.1 hlead]
  | ignore => exact absurd hcase hignore

end

/-! ## Graded values -/

/-- The text in front of an element and the text in it tell the message of a verdict. -/
structure Tells (verdict : Verdict) (before body : String) : Prop where
  pass : verdict.outcome = .pass →
    before = "" ∧ verdict.message = "pass(" ++ unescape body ++ ")"
  fail : verdict.outcome = .fail → verdict.kind ≠ .plain →
    before = "" ∧ verdict.message = "fail(" ++ unescape body ++ ")"
  mismatch : verdict.outcome = .fail → verdict.kind = .plain →
    unescape before = "[" ++ verdict.actual ++ "] " ∧
      verdict.message = unescape before ++ "fail(" ++ unescape body ++ ")"
  blank : verdict.outcome = .ignore → verdict.kind = .blank →
    before = "" ∧ verdict.message = "ignore(" ++ unescape body ++ ")"
  capture : verdict.outcome = .ignore → verdict.kind ≠ .blank →
    before = "" ∧ verdict.message = unescape body

theorem tells_of_shows {verdict : Verdict} {shown : String} (h : verdict.Shows shown) :
    Tells verdict (lead verdict) (escape shown) := by
  have hbefore (hnot : ¬ (verdict.outcome = .fail ∧ verdict.kind = .plain)) :
      lead verdict = "" := if_neg hnot
  refine ⟨?_, ?_, ?_, ?_, ?_⟩
  · intro hpass
    rw [unescape_escape]
    exact ⟨hbefore (by simp [hpass]), (payload_of_pass h hpass).1⟩
  · intro hfail hkind
    rw [unescape_escape]
    exact ⟨hbefore (by simp [hkind]), (payload_of_fail h hfail hkind).1⟩
  · intro hfail hkind
    have hlead : unescape (lead verdict) = "[" ++ verdict.actual ++ "] " := by
      rw [unescape_lead, if_pos ⟨hfail, hkind⟩]
    rw [unescape_escape]
    exact ⟨hlead, message_of_fail h hfail⟩
  · intro hignore hkind
    rw [unescape_escape]
    refine ⟨hbefore (by simp [hignore]), ?_⟩
    rw [h.message, hignore, hkind, frame]
  · intro hignore hkind
    rw [unescape_escape]
    refine ⟨hbefore (by simp [hignore]), ?_⟩
    rw [h.message, hignore, frame]
    exact hkind

/-- The markup of a graded value says what its message says.  With the escapes undone,
the text in the element is the message without the frame of the outcome, and the text in
front of it is the rest of the message of a plain failure.  The payload of a message is
always found, and where a value passed or failed, the markup tells the message. -/
theorem render_says_message [Pattern.Engine] {specText actual : String} {lookup : Lookup}
    {verdict : Verdict} (h : evaluate specText actual lookup = .ok verdict) :
    verdict.actual = actual ∧ (verdict.kind = .capture → verdict.outcome = .ignore) ∧
      (∃ before body : String,
        render verdict =
          before ++ "<span class=\"" ++ verdict.outcome.name ++ "\">" ++ body ++ "</span>" ∧
        Inert before.toList ∧ Inert body.toList ∧ Tells verdict before body) ∧
      (verdict.outcome = .pass →
        (wrapped? "pass(".toList verdict.message.toList).isSome = true) ∧
      (verdict.outcome = .fail → verdict.kind ≠ .plain →
        (wrapped? "fail(".toList verdict.message.toList).isSome = true) ∧
      ∀ {specText' actual' : String} {lookup' : Lookup} {other : Verdict},
        evaluate specText' actual' lookup' = .ok other → other.outcome = verdict.outcome →
        verdict.outcome ≠ .ignore → render other = render verdict →
        other.message = verdict.message := by
  have harises := arises_of_evaluate h
  obtain ⟨shown, hshows⟩ := harises.exists_shows
  have hspan : render verdict = lead verdict ++ "<span class=\"" ++ verdict.outcome.name ++
      "\">" ++ escape shown ++ "</span>" := by
    rw [render_of_shows hshows]
    unfold span
    simp only [String.append_assoc]
  refine ⟨harises.actual_eq, fun hkind => harises.ignore_iff.2 (.inl hkind),
    ⟨lead verdict, escape shown, hspan, inert_lead verdict, inert_escape shown,
      tells_of_shows hshows⟩, ?_, ?_, ?_⟩
  · intro hpass
    rw [(payload_of_pass hshows hpass).2, Option.isSome_some]
  · intro hfail hkind
    rw [(payload_of_fail hshows hfail hkind).2, Option.isSome_some]
  · intro specText' actual' lookup' other hother houtcome hignore hrender
    obtain ⟨shown', hshows'⟩ := (arises_of_evaluate hother).exists_shows
    exact message_eq_of_render_eq hshows hshows' houtcome hignore hrender

theorem render_says_message_entities :
    ∃ verdict, evaluate "<$S &amp;" "] fail(&lt;\"" (SymbolTable.ofList [("S", ")]")]).get? =
        .ok verdict ∧ verdict.outcome = .fail ∧ verdict.kind = .plain ∧
      ∃ before body : String,
        render verdict =
          before ++ "<span class=\"" ++ verdict.outcome.name ++ "\">" ++ body ++ "</span>" ∧
        unescape before = "[] fail(&lt;\"] " ∧
        verdict.message = unescape before ++ "fail(" ++ unescape body ++ ")" := by
  obtain ⟨verdict, hverdict, houtcome, hkind⟩ :
      ∃ verdict, evaluate "<$S &amp;" "] fail(&lt;\""
          (SymbolTable.ofList [("S", ")]")]).get? = .ok verdict ∧
        verdict.outcome = .fail ∧ verdict.kind = .plain := ⟨_, rfl, by decide +kernel, rfl⟩
  obtain ⟨hactual, -, ⟨before, body, hrender, -, -, htells⟩, -⟩ := render_says_message hverdict
  obtain ⟨hbefore, hmessage⟩ := htells.mismatch houtcome hkind
  rw [hactual] at hbefore
  exact ⟨verdict, hverdict, houtcome, hkind, before, body, hrender, hbefore, hmessage⟩

end CellGrading.Markup
