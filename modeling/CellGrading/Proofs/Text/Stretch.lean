import CellGrading.Text.Blank
import Mathlib.Data.List.TakeWhile

/-!
# Stretches of characters

A stretch is a longest run of characters of one sort.  Where a stretch ends is
told by the character behind it, so a text falls into stretches in one way only.
Trimming takes away the two stretches of blanks at the ends.
-/

namespace CellGrading.Text

/-! ## Longest runs -/

def StopsAt (sort : Char → Bool) (text : List Char) : Prop :=
  ∀ c ∈ text.head?, sort c = false

@[simp] theorem stopsAt_nil (sort : Char → Bool) : StopsAt sort [] := by
  simp [StopsAt]

@[simp] theorem stopsAt_cons (sort : Char → Bool) (c : Char) (rest : List Char) :
    StopsAt sort (c :: rest) ↔ sort c = false := by
  simp [StopsAt]

instance (sort : Char → Bool) : DecidablePred (StopsAt sort)
  | [] => .isTrue (stopsAt_nil sort)
  | c :: rest => decidable_of_iff (sort c = false) (stopsAt_cons sort c rest).symm

theorem StopsAt.mono {sort sort' : Char → Bool} {text : List Char} (h : StopsAt sort text)
    (hsort : ∀ c, sort' c = true → sort c = true) : StopsAt sort' text := by
  intro c hc
  have hsortC := h c hc
  cases hc' : sort' c with
  | false => rfl
  | true => rw [hsort c hc'] at hsortC; cases hsortC

section

variable {sort : Char → Bool} {run rest : List Char}

theorem takeWhile_run (hrun : ∀ c ∈ run, sort c = true) (hrest : StopsAt sort rest) :
    (run ++ rest).takeWhile sort = run := by
  rw [List.takeWhile_append_of_pos hrun]
  cases rest with
  | nil => simp
  | cons c rest =>
      have hc : sort c = false := by simpa using hrest
      simp [hc]

theorem dropWhile_run (hrun : ∀ c ∈ run, sort c = true) (hrest : StopsAt sort rest) :
    (run ++ rest).dropWhile sort = rest := by
  rw [List.dropWhile_append_of_pos hrun]
  cases rest with
  | nil => rfl
  | cons c rest =>
      have hc : sort c = false := by simpa using hrest
      simp [hc]

theorem stopsAt_dropWhile (sort : Char → Bool) (text : List Char) :
    StopsAt sort (text.dropWhile sort) := by
  intro c hc
  have hstop := List.head?_dropWhile_not sort text
  rw [Option.mem_def.1 hc] at hstop
  simpa using hstop

theorem StopsAt.append {sort : Char → Bool} {first second : List Char}
    (hfirst : StopsAt sort first) (hsecond : StopsAt sort second) :
    StopsAt sort (first ++ second) := by
  cases first with
  | nil => exact hsecond
  | cons c rest => simpa using hfirst

theorem run_unique {run' rest' : List Char}
    (hrun : ∀ c ∈ run, sort c = true) (hrest : StopsAt sort rest)
    (hrun' : ∀ c ∈ run', sort c = true) (hrest' : StopsAt sort rest')
    (h : run ++ rest = run' ++ rest') : run = run' ∧ rest = rest' := by
  constructor
  · rw [← takeWhile_run hrun hrest, h, takeWhile_run hrun' hrest']
  · rw [← dropWhile_run hrun hrest, h, dropWhile_run hrun' hrest']

end

/-! ## Stretches of blanks -/

def Blanks (text : List Char) : Prop := ∀ c ∈ text, isBlank c = true

instance : DecidablePred Blanks := fun _ =>
  decidable_of_iff _ List.all_eq_true

@[simp] theorem blanks_nil : Blanks [] := by simp [Blanks]

theorem dropBlanks_blanks {gap rest : List Char} (hgap : Blanks gap)
    (hrest : StopsAt isBlank rest) : dropBlanks (gap ++ rest) = rest :=
  dropWhile_run hgap hrest

theorem exists_blanks_append_dropBlanks (text : List Char) :
    ∃ gap, Blanks gap ∧ text = gap ++ dropBlanks text :=
  ⟨text.takeWhile isBlank, fun _ hc => List.mem_takeWhile_imp hc,
    List.takeWhile_append_dropWhile.symm⟩

theorem exists_dropTrailingBlanks_append_blanks (text : List Char) :
    ∃ gap, Blanks gap ∧ text = dropTrailingBlanks text ++ gap := by
  obtain ⟨gap, hgap, htext⟩ := exists_blanks_append_dropBlanks text.reverse
  refine ⟨gap.reverse, fun c hc => hgap c (by simpa using hc), ?_⟩
  rw [dropTrailingBlanks, ← List.reverse_append, ← htext, List.reverse_reverse]

/-! ## Trimming -/

theorem Trimmed.stopsAt {text : List Char} (h : Trimmed text) : StopsAt isBlank text := h.1

theorem dropTrailingBlanks_append_blanks {text gap : List Char}
    (htext : ∀ c ∈ text.getLast?, isBlank c = false) (hgap : Blanks gap) :
    dropTrailingBlanks (text ++ gap) = text := by
  have hstop : StopsAt isBlank text.reverse := by
    intro c hc
    exact htext c (by simpa using hc)
  rw [dropTrailingBlanks, List.reverse_append,
    dropBlanks_blanks (fun c hc => hgap c (by simpa using hc)) hstop, List.reverse_reverse]

theorem trimChars_blanks {before text after : List Char} (hbefore : Blanks before)
    (htext : Trimmed text) (hafter : Blanks after) :
    trimChars (before ++ text ++ after) = text := by
  cases text with
  | nil =>
      have hall : Blanks (before ++ [] ++ after) := by
        intro c hc
        rcases List.mem_append.1 (by simpa using hc) with hc | hc
        · exact hbefore c hc
        · exact hafter c hc
      have hdrop : dropBlanks (before ++ [] ++ after) = [] := by
        simpa using dropBlanks_blanks hall (stopsAt_nil isBlank)
      rw [trimChars, hdrop]
      rfl
  | cons c rest =>
      have hstop : StopsAt isBlank (c :: rest ++ after) := by
        simpa using htext.stopsAt
      rw [trimChars, List.append_assoc, dropBlanks_blanks hbefore hstop,
        dropTrailingBlanks_append_blanks htext.2 hafter]

theorem exists_trimChars (text : List Char) :
    ∃ before after, Blanks before ∧ Blanks after ∧
      text = before ++ trimChars text ++ after := by
  obtain ⟨before, hbefore, htext⟩ := exists_blanks_append_dropBlanks text
  obtain ⟨after, hafter, hrest⟩ := exists_dropTrailingBlanks_append_blanks (dropBlanks text)
  refine ⟨before, after, hbefore, hafter, ?_⟩
  rw [trimChars, List.append_assoc, ← hrest, ← htext]

theorem trimChars_eq_nil_iff (text : List Char) : trimChars text = [] ↔ Blanks text := by
  constructor
  · intro h
    obtain ⟨before, after, hbefore, hafter, htext⟩ := exists_trimChars text
    rw [htext, h, List.append_nil]
    intro c hc
    exact (List.mem_append.1 hc).elim (hbefore c) (hafter c)
  · intro h
    have htrimmed : Trimmed [] := by simp [Trimmed]
    simpa using trimChars_blanks h htrimmed blanks_nil

instance : DecidablePred Trimmed := fun text =>
  decidable_of_iff _ (trimChars_eq_self_iff text)

theorem trimmed_append {first last : List Char} (middle : List Char) (hfirst : Trimmed first)
    (hfirstNe : first ≠ []) (hlast : Trimmed last) (hlastNe : last ≠ []) :
    Trimmed (first ++ (middle ++ last)) := by
  constructor
  · intro c hc
    refine hfirst.1 c ?_
    cases first with
    | nil => exact absurd rfl hfirstNe
    | cons d rest => simpa using hc
  · intro c hc
    refine hlast.2 c ?_
    cases hend : last.getLast? with
    | none => exact absurd (List.getLast?_eq_none_iff.1 hend) hlastNe
    | some d => simpa [hend] using hc

end CellGrading.Text
