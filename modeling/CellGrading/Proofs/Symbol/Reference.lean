import CellGrading.Proofs.Spec.Form
import CellGrading.Symbol.Substitution

/-!
# Names in a text

Which symbols a text mentions, said without the scan for them: the name stands behind a
`$` and goes on as far as there are word characters.  The scan finds these names and no
others, since a text may be cut in two for it wherever no word goes on.
-/

namespace CellGrading

open Text

/-- Somewhere in the text the name stands behind a `$`, and no word character behind it. -/
def Mentions (text name : String) : Prop :=
  IsName name.toList ∧ ∃ before after,
    text.toList = before ++ '$' :: (name.toList ++ after) ∧ StopsAt isWord after

namespace Piece

/-! ## Scanning in parts -/

theorem isAlpha_of_stopsAt_isWord {c : Char} {rest : List Char}
    (h : StopsAt isWord (c :: rest)) : c.isAlpha = false := by
  have hword : isWord c = false := by simpa using h
  cases halpha : c.isAlpha with
  | false => rfl
  | true => cases (isWord_of_isAlpha halpha).symm.trans hword

theorem split_reference_append {name rest : List Char} (hname : IsName name)
    (hrest : StopsAt isWord rest) :
    split ('$' :: (name ++ rest)) = .reference name :: split rest := by
  obtain ⟨first, tail, rfl, hfirst, htail⟩ := hname
  rw [List.cons_append, split, if_pos ⟨rfl, hfirst⟩, takeWhile_run htail hrest,
    dropWhile_run htail hrest]

theorem split_append (first : List Char) {second : List Char} (h : StopsAt isWord second) :
    split (first ++ second) = split first ++ split second := by
  fun_induction split first with
  | case1 => rfl
  | case2 c =>
      cases second with
      | nil => simp [split]
      | cons d rest => simp [split, isAlpha_of_stopsAt_isWord h]
  | case3 c initial rest hreference ih =>
      obtain ⟨rfl, hinitial⟩ := hreference
      have hname : IsName (initial :: rest.takeWhile isWord) :=
        ⟨initial, _, rfl, hinitial, fun c hc => List.mem_takeWhile_imp hc⟩
      have hrest := (stopsAt_dropWhile isWord rest).append h
      have htext : '$' :: initial :: rest ++ second = '$' :: (initial :: rest.takeWhile isWord ++
          (rest.dropWhile isWord ++ second)) := by
        simp only [List.cons_append, ← List.append_assoc, List.takeWhile_append_dropWhile]
      rw [htext, split_reference_append hname hrest, ih, List.cons_append]
  | case4 c initial rest hchar ih =>
      rw [List.cons_append, List.cons_append, split, if_neg hchar, ← List.cons_append, ih,
        List.cons_append]

/-! ## What the scan finds -/

theorem exists_of_reference_mem_split {text name : List Char}
    (h : reference name ∈ split text) :
    ∃ before after, text = before ++ '$' :: (name ++ after) ∧ IsName name ∧
      StopsAt isWord after := by
  fun_induction split text with
  | case1 => cases h
  | case2 c => simp at h
  | case3 c initial rest hreference ih =>
      obtain ⟨rfl, hinitial⟩ := hreference
      rcases List.mem_cons.1 h with heq | hmem
      · cases heq
        refine ⟨[], rest.dropWhile isWord, ?_, ?_, stopsAt_dropWhile isWord rest⟩
        · simp [List.takeWhile_append_dropWhile]
        · exact ⟨initial, _, rfl, hinitial, fun c hc => List.mem_takeWhile_imp hc⟩
      · obtain ⟨before, after, hrest, hname, hafter⟩ := ih hmem
        refine ⟨'$' :: initial :: (rest.takeWhile isWord ++ before), after, ?_, hname, hafter⟩
        rw [List.cons_append, List.cons_append, List.append_assoc, ← hrest,
          List.takeWhile_append_dropWhile]
  | case4 c initial rest hchar ih =>
      rcases List.mem_cons.1 h with heq | hmem
      · cases heq
      · obtain ⟨before, after, hrest, hname, hafter⟩ := ih hmem
        exact ⟨c :: before, after, by rw [hrest, List.cons_append], hname, hafter⟩

theorem reference_mem_split {before name after : List Char} (hname : IsName name)
    (hafter : StopsAt isWord after) :
    reference name ∈ split (before ++ '$' :: (name ++ after)) := by
  rw [split_append before (by simp), split_reference_append hname hafter]
  simp

end Piece

theorem mem_referencedNames_iff (text name : String) :
    name ∈ referencedNames text ↔ Mentions text name := by
  have hmem : name ∈ referencedNames text ↔
      Piece.reference name.toList ∈ Piece.split text.toList := by
    rw [referencedNames, List.mem_filterMap]
    constructor
    · rintro ⟨piece, hpiece, hname⟩
      obtain ⟨chars, hchars, rfl⟩ := Option.map_eq_some_iff.1 hname
      cases piece with
      | char c => cases hchars
      | reference found =>
          cases hchars
          rwa [String.toList_ofList]
    · intro hpiece
      exact ⟨_, hpiece, by simp [Piece.name?]⟩
  rw [hmem]
  constructor
  · intro hpiece
    obtain ⟨before, after, htext, hname, hafter⟩ := Piece.exists_of_reference_mem_split hpiece
    exact ⟨hname, before, after, htext, hafter⟩
  · rintro ⟨hname, before, after, htext, hafter⟩
    rw [htext]
    exact Piece.reference_mem_split hname hafter

instance (text name : String) : Decidable (Mentions text name) :=
  decidable_of_iff _ (mem_referencedNames_iff text name)

end CellGrading
