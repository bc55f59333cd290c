import CellGrading.Proofs.Pattern.Compilation

/-!
# Patterns without signs

A pattern in which no character has a meaning of its own stands for its characters one
after another.  It is found in a text exactly where it stands in the text.
-/

namespace CellGrading.Pattern

def signs : List Char :=
  ['\\', '.', '+', '*', '?', '(', ')', '|', '[', ']', '{', '}', '^', '$']

def Signless (text : List Char) : Prop := ∀ c ∈ text, c ∉ signs

instance : DecidablePred Signless := List.decidableBAll (· ∉ signs)

/-! ## Reading -/

def letters (text : List Char) : List Tree := text.map fun c => .letter ⟨c, false⟩

theorem letters_cons (c : Char) (rest : List Char) :
    letters (c :: rest) = .letter ⟨c, false⟩ :: letters rest := rfl

theorem readStep?_of_not_mem_signs {c : Char} (h : c ∉ signs) (state : Progress)
    (rest : List Char) :
    readStep? state (c :: rest) = some (state.push (.letter ⟨c, false⟩), rest) := by
  simp only [signs, List.mem_cons, List.not_mem_nil, or_false, not_or] at h
  simp [readStep?, h]

theorem readSteps?_of_signless {text : List Char} (h : Signless text)
    (parts branches : List Tree) (outer : List OpenGroup) (names : List (List Char))
    {fuel : Nat} (hfuel : text.length < fuel) :
    readSteps? fuel ⟨parts, branches, outer, false, names⟩ text =
      some ⟨(letters text).reverse ++ parts, branches, outer, false, names⟩ := by
  induction text generalizing parts fuel with
  | nil =>
      obtain ⟨fuel, rfl⟩ := Nat.exists_eq_add_of_lt hfuel
      rfl
  | cons c rest ih =>
      obtain ⟨hc, hrest⟩ := List.forall_mem_cons.1 h
      cases fuel with
      | zero => cases hfuel
      | succ fuel =>
          have hnext := ih hrest (.letter ⟨c, false⟩ :: parts) (Nat.lt_of_succ_lt_succ hfuel)
          simp only [readSteps?, skip, Bool.false_eq_true, if_false,
            readStep?_of_not_mem_signs hc]
          rw [letters_cons, List.reverse_cons, List.append_assoc]
          exact hnext

theorem maxDepth_letters (text : List Char) : Tree.maxDepth (letters text) = 0 := by
  induction text with
  | nil => rfl
  | cons c rest ih => simp [letters_cons, Tree.maxDepth, Tree.depth, ih]

theorem Tree.depth_ofParts_le (trees : List Tree) :
    (ofParts trees).depth ≤ maxDepth trees + 1 := by
  match trees with
  | [] => exact Nat.zero_le _
  | [tree] =>
      rw [ofParts, maxDepth, maxDepth]
      omega
  | first :: second :: rest => exact Nat.le_refl _

theorem Tree.read?_of_signless {text : List Char} (h : Signless text) :
    read? text = some (ofParts (letters text)) := by
  have hread : readSteps? (text.length + 1) .start text = _ :=
    readSteps?_of_signless h [] [] [] [] (Nat.lt_succ_self text.length)
  have hcontent : Progress.content ⟨(letters text).reverse ++ [], [], [], false, []⟩ =
      ofParts (letters text) := by
    simp [Progress.content, ofBranches]
  have hdepth : (ofParts (letters text)).depth ≤ nestingLimit := by
    have hle := depth_ofParts_le (letters text)
    rw [maxDepth_letters] at hle
    exact Nat.le_trans hle (by decide)
  rw [read?, hread]
  simp only [Option.bind_eq_bind, Option.bind_some, List.isEmpty_nil, if_true, hcontent,
    if_pos hdepth]
  rfl

/-! ## Meaning -/

theorem Tree.meaning?_ofParts (setting : Setting) (trees : List Tree) :
    (ofParts trees).meaning? setting =
      (meanings? setting trees).map fun (parts, after) => (.ofParts parts, after) := by
  match trees with
  | [] => rfl
  | [tree] =>
      rw [ofParts, meanings?]
      cases tree.meaning? setting <;> rfl
  | first :: second :: rest =>
      change Option.bind _ _ = _
      cases meanings? setting (first :: second :: rest) <;> rfl

def Regex.ofChars (chars : List Char) : Regex := .ofParts (chars.map fun c => .set (.single c))

theorem Tree.meanings?_letters (text : List Char) :
    meanings? {} (letters text) = some (text.map fun c => .set (.single c), {}) := by
  induction text with
  | nil => rfl
  | cons c rest ih =>
      have hfirst : meaning? {} (.letter ⟨c, false⟩) = some (.set (.single c), {}) := rfl
      rw [letters_cons, meanings?, hfirst]
      simp [ih]

theorem compile?_of_signless {pattern : String} (h : Signless pattern.toList) :
    compile? pattern = some (.ofChars pattern.toList) := by
  rw [compile?, Tree.read?_of_signless h]
  simp [Tree.meaning?_ofParts, Tree.meanings?_letters, Regex.ofChars]

/-! ## Search -/

namespace Regex

theorem matches_ofParts_cons (text : List Char) (part : Regex) (parts : List Regex)
    (start stop : Nat) :
    (ofParts (part :: parts)).Matches text start stop ↔
      ∃ middle, part.Matches text start middle ∧ (ofParts parts).Matches text middle stop := by
  cases parts with
  | nil => simp [ofParts, Matches]
  | cons next rest => rfl

theorem matches_single_iff (text : List Char) (c : Char) (start stop : Nat) :
    (set (.single c)).Matches text start stop ↔ text[start]? = some c ∧ stop = start + 1 := by
  constructor
  · rintro ⟨hstop, d, hd, hhas⟩
    obtain rfl := (CharSet.has_single c d).1 hhas
    exact ⟨hd, hstop⟩
  · rintro ⟨hc, hstop⟩
    exact ⟨hstop, c, hc, (CharSet.has_single c c).2 rfl⟩

theorem matches_ofChars_iff (text chars : List Char) (start stop : Nat) :
    (ofChars chars).Matches text start stop ↔
      chars <+: text.drop start ∧ stop = start + chars.length := by
  induction chars generalizing start with
  | nil => simp [ofChars, ofParts, Matches, eq_comm]
  | cons c rest ih =>
      rw [ofChars, List.map_cons, matches_ofParts_cons, ← ofChars, List.length_cons]
      simp only [matches_single_iff, ih]
      constructor
      · rintro ⟨_, ⟨hc, rfl⟩, hrest, rfl⟩
        obtain ⟨hlt, rfl⟩ := List.getElem?_eq_some_iff.1 hc
        rw [List.drop_eq_getElem_cons hlt, List.prefix_cons_inj]
        exact ⟨hrest, by omega⟩
      · rintro ⟨hhead, rfl⟩
        have hlt : start < text.length := by
          have hlength := hhead.length_le
          rw [List.length_drop, List.length_cons] at hlength
          omega
        rw [List.drop_eq_getElem_cons hlt, List.cons_prefix_cons] at hhead
        obtain ⟨rfl, hrest⟩ := hhead
        exact ⟨start + 1, ⟨List.getElem?_eq_getElem hlt, rfl⟩, hrest, by omega⟩

theorem foundIn_ofChars_iff (text chars : List Char) :
    (ofChars chars).FoundIn text ↔ chars <:+: text := by
  simp only [FoundIn, matches_ofChars_iff]
  constructor
  · rintro ⟨start, _, -, hhead, rfl⟩
    exact hhead.isInfix.trans (List.drop_suffix start text).isInfix
  · rintro ⟨before, after, rfl⟩
    refine ⟨before.length, _, ?_, ?_, rfl⟩
    · simp
    · rw [List.append_assoc, List.drop_left]
      exact List.prefix_append chars after

end Regex

end CellGrading.Pattern
