import CellGrading.Proofs.Bytewise.Preference

/-!
# Patterns that are rows of parts

Most patterns put parts in a row: expressions without groups, groups of such expressions, and
the two ends of the text.  What such a pattern matches is a row of pieces, one of the language
of each part, and what its groups hold are the pieces at their parts.
-/

namespace CellGrading.Pattern

open Text Bytewise

/-! ## Languages -/

def Trail.past (trail : Trail) (piece rest : List Char) : Trail :=
  ⟨trail.front ++ piece, rest, trail.groups⟩

@[simp] theorem Trail.past_past (trail : Trail) (first second rest rest' : List Char) :
    (trail.past first rest).past second rest' = trail.past (first ++ second) rest' := by
  simp [past]

theorem Trail.past_nil (trail : Trail) : trail.past [] trail.rest = trail := by
  simp [past]

theorem Trail.mem_across_iff {chars : CharSet} {earlier later : Trail} :
    later ∈ earlier.across chars ↔
      ∃ c rest, chars.has c.toNat = true ∧ earlier.rest = c :: rest ∧
        later = earlier.past [c] rest := by
  unfold Trail.across
  cases hrest : earlier.rest with
  | nil => simp
  | cons c rest =>
      dsimp only
      split
      · next hc =>
          rw [List.mem_singleton]
          constructor
          · rintro rfl
            exact ⟨c, rest, hc, rfl, rfl⟩
          · rintro ⟨_, _, -, ⟨⟩, rfl⟩
            rfl
      · next hc =>
          rw [List.mem_nil_iff, false_iff]
          rintro ⟨_, _, hd, ⟨⟩, -⟩
          exact hc hd

/-- The expression has no groups, and the pieces that it matches are those of the language,
whatever stands around them. -/
structure Regex.Spells (regex : Regex) (language : List Char → Prop) : Prop where
  groupCount : regex.groupCount = 0
  mem_ways_iff : ∀ number earlier later, later ∈ regex.ways number earlier ↔
    ∃ piece rest, language piece ∧ earlier.rest = piece ++ rest ∧ later = earlier.past piece rest

namespace Regex.Spells

theorem empty : Regex.empty.Spells (· = []) where
  groupCount := rfl
  mem_ways_iff number earlier later := by
    simp [ways, Trail.past]

theorem set (chars : CharSet) :
    (Regex.set chars).Spells fun piece => ∃ c, piece = [c] ∧ chars.has c.toNat = true where
  groupCount := rfl
  mem_ways_iff number earlier later := by
    rw [ways, Trail.mem_across_iff]
    constructor
    · rintro ⟨c, rest, hc, hrest, rfl⟩
      exact ⟨[c], rest, ⟨c, rfl, hc⟩, hrest, rfl⟩
    · rintro ⟨_, rest, ⟨c, rfl, hc⟩, hrest, rfl⟩
      exact ⟨c, rest, hc, hrest, rfl⟩

theorem mono {regex : Regex} {language language' : List Char → Prop} (h : regex.Spells language)
    (hlanguage : ∀ piece, language piece ↔ language' piece) : regex.Spells language' where
  groupCount := h.groupCount
  mem_ways_iff number earlier later := by
    simp only [h.mem_ways_iff, hlanguage]

theorem single (c : Char) : (Regex.set (.single c)).Spells (· = [c]) := by
  refine (set _).mono fun piece => ?_
  simp only [CharSet.has_single]
  constructor
  · rintro ⟨d, rfl, rfl⟩
    rfl
  · rintro rfl
    exact ⟨c, rfl, rfl⟩

section

variable {first second : Regex} {language language' : List Char → Prop}
  (hfirst : first.Spells language) (hsecond : second.Spells language')
include hfirst hsecond

theorem seq : (Regex.seq first second).Spells fun piece =>
    ∃ before after, piece = before ++ after ∧ language before ∧ language' after where
  groupCount := by rw [Regex.groupCount, hfirst.groupCount, hsecond.groupCount]
  mem_ways_iff number earlier later := by
    simp only [ways, List.mem_flatMap, hfirst.mem_ways_iff, hsecond.mem_ways_iff]
    constructor
    · rintro ⟨_, ⟨before, rest, hbefore, hrest, rfl⟩, after, rest', hafter, hrest', rfl⟩
      refine ⟨before ++ after, rest', ⟨before, after, rfl, hbefore, hafter⟩, ?_, by simp⟩
      rw [hrest, List.append_assoc]
      exact congrArg _ hrest'
    · rintro ⟨_, rest, ⟨before, after, rfl, hbefore, hafter⟩, hrest, rfl⟩
      refine ⟨earlier.past before (after ++ rest), ⟨before, _, hbefore, ?_, rfl⟩, after, rest,
        hafter, rfl, by simp⟩
      rw [hrest, List.append_assoc]

theorem alt : (Regex.alt first second).Spells fun piece => language piece ∨ language' piece where
  groupCount := by rw [Regex.groupCount, hfirst.groupCount, hsecond.groupCount]
  mem_ways_iff number earlier later := by
    simp only [ways, List.mem_append, hfirst.mem_ways_iff, hsecond.mem_ways_iff]
    constructor
    · rintro (⟨piece, rest, hpiece, h⟩ | ⟨piece, rest, hpiece, h⟩)
      · exact ⟨piece, rest, .inl hpiece, h⟩
      · exact ⟨piece, rest, .inr hpiece, h⟩
    · rintro ⟨piece, rest, hpiece | hpiece, h⟩
      · exact .inl ⟨piece, rest, hpiece, h⟩
      · exact .inr ⟨piece, rest, hpiece, h⟩

end

theorem optional {regex : Regex} {language : List Char → Prop} (h : regex.Spells language) :
    (Regex.repetition regex 0 (some 1)).Spells fun piece => piece = [] ∨ language piece where
  groupCount := h.groupCount
  mem_ways_iff number earlier later := by
    simp only [ways, Trail.rounds, Trail.greedily, List.flatMap_singleton, List.mem_append,
      List.mem_flatMap, List.mem_filter, List.mem_singleton, h.mem_ways_iff]
    constructor
    · rintro (⟨_, ⟨⟨piece, rest, hpiece, hrest⟩, -⟩, rfl⟩ | rfl)
      · exact ⟨piece, rest, .inr hpiece, hrest⟩
      · exact ⟨[], later.rest, .inl rfl, rfl, later.past_nil.symm⟩
    · rintro ⟨piece, rest, hpiece, hrest, rfl⟩
      by_cases hnil : piece = []
      · subst hnil
        obtain rfl : earlier.rest = rest := hrest
        exact .inr earlier.past_nil
      · have hpos := List.length_pos_iff.2 hnil
        refine .inl ⟨_, ⟨⟨piece, rest, hpiece.resolve_left hnil, hrest, rfl⟩, ?_⟩, rfl⟩
        simp only [Trail.past, hrest, List.length_append, decide_eq_true_eq]
        omega

theorem mem_greedily_across_iff (chars : CharSet) {fuel : Nat} {earlier later : Trail}
    (hfuel : earlier.rest.length ≤ fuel) :
    later ∈ earlier.greedily (Trail.across chars) fuel ↔
      ∃ piece rest, (∀ c ∈ piece, chars.has c.toNat = true) ∧ earlier.rest = piece ++ rest ∧
        later = earlier.past piece rest := by
  induction fuel generalizing earlier with
  | zero =>
      have hnil : earlier.rest = [] := List.length_eq_zero_iff.1 (Nat.le_zero.1 hfuel)
      rw [Trail.greedily, List.mem_singleton]
      constructor
      · rintro rfl
        exact ⟨[], later.rest, by simp, rfl, later.past_nil.symm⟩
      · rintro ⟨piece, rest, -, hrest, rfl⟩
        obtain ⟨rfl, rfl⟩ := List.append_eq_nil_iff.1 (hrest.symm.trans hnil)
        have hpast := earlier.past_nil
        rwa [hnil] at hpast
  | succ fuel ih =>
      simp only [Trail.greedily, List.mem_append, List.mem_flatMap, List.mem_filter,
        List.mem_singleton]
      constructor
      · rintro (⟨next, ⟨hnext, hless⟩, hlater⟩ | rfl)
        · obtain ⟨c, rest, hc, hrest, rfl⟩ := Trail.mem_across_iff.1 hnext
          have hle : rest.length ≤ fuel := by
            rw [hrest, List.length_cons] at hfuel
            exact Nat.le_of_succ_le_succ hfuel
          obtain ⟨piece, rest', hpiece, hrest', rfl⟩ := (ih hle).1 hlater
          have hrest' : rest = piece ++ rest' := hrest'
          refine ⟨c :: piece, rest', List.forall_mem_cons.2 ⟨hc, hpiece⟩, ?_, by simp⟩
          rw [hrest, hrest', List.cons_append]
        · exact ⟨[], later.rest, by simp, rfl, later.past_nil.symm⟩
      · rintro ⟨piece, rest, hpiece, hrest, rfl⟩
        cases piece with
        | nil =>
            obtain rfl : earlier.rest = rest := hrest
            exact .inr earlier.past_nil
        | cons c piece =>
            obtain ⟨hc, hpiece⟩ := List.forall_mem_cons.1 hpiece
            have hnext : earlier.past [c] (piece ++ rest) ∈ earlier.across chars :=
              Trail.mem_across_iff.2 ⟨c, _, hc, hrest, rfl⟩
            have hless : (piece ++ rest).length < earlier.rest.length := by
              rw [hrest, List.cons_append, List.length_cons]
              exact Nat.lt_succ_self _
            have hle : (piece ++ rest).length ≤ fuel := by omega
            refine .inl ⟨_, ⟨hnext, decide_eq_true hless⟩, (ih hle).2 ?_⟩
            exact ⟨piece, rest, hpiece, rfl, by simp⟩

theorem star (chars : CharSet) :
    (Regex.repetition (.set chars) 0 none).Spells fun piece =>
      ∀ c ∈ piece, chars.has c.toNat = true where
  groupCount := rfl
  mem_ways_iff number earlier later := by
    simp only [ways, Trail.rounds, List.flatMap_singleton]
    exact mem_greedily_across_iff chars (Nat.le_refl _)

theorem plus (chars : CharSet) :
    (Regex.repetition (.set chars) 1 none).Spells fun piece =>
      piece ≠ [] ∧ ∀ c ∈ piece, chars.has c.toNat = true where
  groupCount := rfl
  mem_ways_iff number earlier later := by
    have hstar : later ∈ (Regex.repetition (.set chars) 1 none).ways number earlier ↔
        later ∈ (Regex.seq (.set chars) (.repetition (.set chars) 0 none)).ways number earlier := by
      simp [ways, Trail.rounds, List.mem_flatMap]
    rw [hstar, ((set chars).seq (star chars)).mem_ways_iff]
    constructor
    · rintro ⟨_, rest, ⟨_, piece, rfl, ⟨c, rfl, hc⟩, hpiece⟩, h⟩
      exact ⟨[c] ++ piece, rest, ⟨by simp, List.forall_mem_cons.2 ⟨hc, hpiece⟩⟩, h⟩
    · rintro ⟨piece, rest, ⟨hne, hpiece⟩, h⟩
      obtain ⟨c, piece, rfl⟩ := List.exists_cons_of_ne_nil hne
      obtain ⟨hc, hpiece⟩ := List.forall_mem_cons.1 hpiece
      exact ⟨c :: piece, rest, ⟨[c], piece, rfl, ⟨c, rfl, hc⟩, hpiece⟩, h⟩

end Regex.Spells

/-! ## Parts -/

/-- A part of a pattern: an end of the text, or an expression without groups, by itself or as a
group. -/
inductive Part where
  | textStart
  | textEnd
  | plain {regex : Regex} {language : List Char → Prop} (spells : regex.Spells language)
  | group {regex : Regex} {language : List Char → Prop} (spells : regex.Spells language)

namespace Part

def regex : Part → Regex
  | .textStart => .look .textStart
  | .textEnd => .look .textEnd
  | @plain regex _ _ => regex
  | @group regex _ _ => .capture regex

/-- The piece is one for the part, between what stands before it and behind it. -/
def Accepts (front piece rest : List Char) : Part → Prop
  | .textStart => front = [] ∧ piece = []
  | .textEnd => rest = [] ∧ piece = []
  | @plain _ language _ => language piece
  | @group _ language _ => language piece

def note (number : Nat) (front piece : List Char) (groups : List (Nat × Span)) :
    Part → List (Nat × Span)
  | .group _ => (number, ⟨utf8Size front, utf8Size (front ++ piece)⟩) :: groups
  | _ => groups

section

variable {regex : Regex} {language : List Char → Prop} (spells : regex.Spells language)

@[simp] theorem groupCount_plain : (plain spells).regex.groupCount = 0 := spells.groupCount

@[simp] theorem groupCount_group : (group spells).regex.groupCount = 1 := by
  rw [Part.regex, Regex.groupCount, spells.groupCount]

end

theorem mem_ways_look_iff (condition : Look) (number : Nat) (earlier later : Trail) :
    later ∈ (Regex.look condition).ways number earlier ↔
      condition.holds earlier.front.getLast? earlier.rest.head? = true ∧ later = earlier := by
  rw [Regex.ways]
  split
  · next h => simp [h]
  · next h => simp [h]

theorem mem_ways_iff (part : Part) (number : Nat) (earlier later : Trail) :
    later ∈ part.regex.ways number earlier ↔
      ∃ piece rest, part.Accepts earlier.front piece rest ∧ earlier.rest = piece ++ rest ∧
        later = ⟨earlier.front ++ piece, rest,
          part.note number earlier.front piece earlier.groups⟩ := by
  cases part with
  | textStart =>
      simp only [regex, mem_ways_look_iff, Look.holds, Option.isNone_iff_eq_none,
        List.getLast?_eq_none_iff]
      constructor
      · rintro ⟨hfront, rfl⟩
        exact ⟨[], later.rest, ⟨hfront, rfl⟩, rfl, later.past_nil.symm⟩
      · rintro ⟨_, rest, ⟨hfront, rfl⟩, rfl, rfl⟩
        exact ⟨hfront, earlier.past_nil⟩
  | textEnd =>
      simp only [regex, mem_ways_look_iff, Look.holds, Option.isNone_iff_eq_none,
        List.head?_eq_none_iff]
      constructor
      · rintro ⟨hrest, rfl⟩
        exact ⟨[], later.rest, ⟨hrest, rfl⟩, rfl, later.past_nil.symm⟩
      · rintro ⟨_, rest, ⟨hnil, rfl⟩, rfl, rfl⟩
        exact ⟨hnil, earlier.past_nil⟩
  | plain spells => exact spells.mem_ways_iff number earlier later
  | group spells =>
      rw [regex, Regex.ways, List.mem_map]
      constructor
      · rintro ⟨inner, hinner, rfl⟩
        obtain ⟨piece, rest, hpiece, hrest, rfl⟩ := (spells.mem_ways_iff _ _ _).1 hinner
        exact ⟨piece, rest, hpiece, hrest, rfl⟩
      · rintro ⟨piece, rest, hpiece, hrest, rfl⟩
        exact ⟨_, (spells.mem_ways_iff _ _ _).2 ⟨piece, rest, hpiece, hrest, rfl⟩, rfl⟩

end Part

/-! ## Rows -/

namespace Part

/-- The pieces are those of the parts, one behind the other between what stands before them and
behind them. -/
inductive Reads : List Part → (front : List Char) → List (List Char) → (rest : List Char) → Prop
  | nil {front rest : List Char} : Reads [] front [] rest
  | cons {part : Part} {parts : List Part} {front piece rest : List Char}
      {pieces : List (List Char)} (hpiece : part.Accepts front piece (pieces.flatten ++ rest))
      (hpieces : Reads parts (front ++ piece) pieces rest) :
      Reads (part :: parts) front (piece :: pieces) rest

theorem Reads.eq_nil_of_textEnd {front : List Char} {pieces : List (List Char)}
    {rest : List Char} (h : Reads [.textEnd] front pieces rest) : pieces = [[]] ∧ rest = [] := by
  obtain _ | ⟨⟨hrest, rfl⟩, _ | _⟩ := h
  exact ⟨rfl, hrest⟩

def grouped : List Part → List (List Char) → List (List Char)
  | .group _ :: parts, piece :: pieces => piece :: grouped parts pieces
  | _ :: parts, _ :: pieces => grouped parts pieces
  | _, _ => []

def notes : List Part → Nat → (front : List Char) → List (List Char) → List (Nat × Span) →
    List (Nat × Span)
  | part :: parts, number, front, piece :: pieces, groups =>
      notes parts (number + part.regex.groupCount) (front ++ piece) pieces
        (part.note number front piece groups)
  | _, _, _, _, groups => groups

def row (parts : List Part) : Regex := .ofParts (parts.map regex)

theorem mem_ways_row_cons (part : Part) (parts : List Part) (number : Nat)
    (earlier later : Trail) :
    later ∈ (row (part :: parts)).ways number earlier ↔
      ∃ middle ∈ part.regex.ways number earlier,
        later ∈ (row parts).ways (number + part.regex.groupCount) middle := by
  cases parts with
  | nil => simp [row, Regex.ofParts, Regex.ways]
  | cons next parts => exact List.mem_flatMap

theorem mem_ways_row_iff (parts : List Part) (number : Nat) (earlier later : Trail) :
    later ∈ (row parts).ways number earlier ↔
      ∃ pieces rest, Reads parts earlier.front pieces rest ∧
        earlier.rest = pieces.flatten ++ rest ∧
        later = ⟨earlier.front ++ pieces.flatten, rest,
          notes parts number earlier.front pieces earlier.groups⟩ := by
  induction parts generalizing number earlier with
  | nil =>
      change later ∈ [earlier] ↔ _
      rw [List.mem_singleton]
      constructor
      · rintro rfl
        exact ⟨[], later.rest, .nil, rfl, later.past_nil.symm⟩
      · rintro ⟨_, rest, ⟨⟩, rfl, rfl⟩
        exact earlier.past_nil
  | cons part parts ih =>
      simp only [mem_ways_row_cons, part.mem_ways_iff, ih]
      constructor
      · rintro ⟨_, ⟨piece, rest, hpiece, hrest, rfl⟩, pieces, rest', hreads, hrest', rfl⟩
        obtain rfl : rest = pieces.flatten ++ rest' := hrest'
        refine ⟨piece :: pieces, rest', .cons hpiece hreads, ?_, ?_⟩
        · rw [hrest, List.flatten_cons, List.append_assoc]
        · rw [List.flatten_cons, ← List.append_assoc, notes]
      · rintro ⟨_, rest, _ | ⟨hpiece, hreads⟩, hrest, rfl⟩
        rw [List.flatten_cons, List.append_assoc] at hrest
        refine ⟨_, ⟨_, _, hpiece, hrest, rfl⟩, _, rest, hreads, rfl, ?_⟩
        rw [List.flatten_cons, ← List.append_assoc, notes]

/-! ## Groups of a row -/

theorem lookup_notes_of_lt (parts : List Part) {number wanted : Nat} (front : List Char)
    (pieces : List (List Char)) (groups : List (Nat × Span)) (h : wanted < number) :
    (notes parts number front pieces groups).lookup wanted = groups.lookup wanted := by
  induction parts generalizing number front pieces groups with
  | nil => rfl
  | cons part parts ih =>
      cases pieces with
      | nil => rfl
      | cons piece pieces =>
          rw [notes, ih _ _ _ (Nat.lt_add_right _ h)]
          cases part with
          | group spells =>
              have hne : (wanted == number) = false := by simpa using Nat.ne_of_lt h
              rw [note, List.lookup_cons, hne]
          | _ => rfl

theorem lookup_notes {parts : List Part} {number : Nat} {front : List Char}
    {pieces : List (List Char)} {groups : List (Nat × Span)} {index : Nat} {piece : List Char}
    (h : (grouped parts pieces)[index]? = some piece) :
    ∃ before after, front ++ pieces.flatten = before ++ (piece ++ after) ∧
      (notes parts number front pieces groups).lookup (number + index) =
        some ⟨utf8Size before, utf8Size (before ++ piece)⟩ := by
  induction parts generalizing number front pieces groups index with
  | nil => cases h
  | cons part parts ih =>
      cases pieces with
      | nil => cases part <;> cases h
      | cons first pieces =>
          rw [List.flatten_cons, ← List.append_assoc, notes]
          cases part with
          | group spells =>
              rw [groupCount_group]
              cases index with
              | zero =>
                  obtain rfl : first = piece := Option.some.inj h
                  refine ⟨front, pieces.flatten, List.append_assoc .., ?_⟩
                  rw [lookup_notes_of_lt _ _ _ _ (Nat.lt_succ_self _), note]
                  exact List.lookup_cons_self
              | succ index =>
                  rw [Nat.add_comm index, ← Nat.add_assoc]
                  exact ih h
          | textStart => exact ih h
          | textEnd => exact ih h
          | plain spells =>
              rw [groupCount_plain]
              exact ih h

/-! ## The match of a row -/

/-- Where a row matches at the start of a text, the text begins with pieces for it, and the
groups hold the pieces at them. -/
theorem exists_pieces_of_matchAt? {parts : List Part} {text : String} {found : Match}
    (h : (row parts).matchAt? [] text.toList = some found) :
    ∃ pieces rest, Reads parts [] pieces rest ∧ text.toList = pieces.flatten ++ rest ∧
      ∀ index piece, (grouped parts pieces)[index]? = some piece →
        found.group text (index + 1) = .ok (.ofList piece) := by
  obtain ⟨trail, htrail, rfl⟩ := Regex.exists_way_of_matchAt? h
  obtain ⟨pieces, rest, hreads, hrest, rfl⟩ := (mem_ways_row_iff _ _ _ _).1 htrail
  refine ⟨pieces, rest, hreads, hrest, ?_⟩
  intro index piece hpiece
  obtain ⟨before, after, hflatten, hlookup⟩ := @lookup_notes _ 1 [] _ [] _ _ hpiece
  rw [Nat.add_comm] at hlookup
  rw [Match.group, Match.get?, if_neg (Nat.succ_ne_zero index), hlookup]
  refine slice_of_append _ _ (after ++ rest) ?_
  have hrest : text.toList = pieces.flatten ++ rest := hrest
  rw [hrest, ← List.nil_append pieces.flatten, hflatten, List.append_assoc, List.append_assoc]

theorem matchAt?_isSome_of_reads {parts : List Part} {pieces : List (List Char)}
    {rest : List Char} (h : Reads parts [] pieces rest) :
    ((row parts).matchAt? [] (pieces.flatten ++ rest)).isSome = true := by
  have hway := (mem_ways_row_iff parts 1 ⟨[], pieces.flatten ++ rest, []⟩ _).2
    ⟨pieces, rest, h, rfl, rfl⟩
  rw [Regex.matchAt?, Option.isSome_map, List.isSome_head?]
  simpa using List.ne_nil_of_mem hway

theorem front_eq_nil_of_reads {parts : List Part} {front : List Char}
    {pieces : List (List Char)} {rest : List Char} (h : Reads parts front pieces rest)
    (hstart : Part.textStart ∈ parts) : front = [] := by
  induction h with
  | nil => cases hstart
  | cons hpiece _ ih =>
      rcases List.mem_cons.1 hstart with rfl | hmem
      · exact hpiece.1
      · exact (List.append_eq_nil_iff.1 (ih hmem)).1

theorem matchAt?_eq_none {parts : List Part} (hstart : Part.textStart ∈ parts)
    {front : List Char} (hfront : front ≠ []) (rest : List Char) :
    (row parts).matchAt? front rest = none := by
  cases hat : (row parts).matchAt? front rest with
  | none => rfl
  | some found =>
      obtain ⟨trail, htrail, -⟩ := Regex.exists_way_of_matchAt? hat
      obtain ⟨pieces, rest, hreads, -⟩ := (mem_ways_row_iff _ _ _ _).1 htrail
      exact absurd (front_eq_nil_of_reads hreads hstart) hfront

theorem matchesFrom_eq_nil {parts : List Part} (hstart : Part.textStart ∈ parts)
    {front : List Char} (hfront : front ≠ []) (last : Option Nat) (rest : List Char) :
    (row parts).matchesFrom last front rest = [] := by
  induction rest generalizing front with
  | nil => rw [Regex.matchesFrom, Regex.nextAt?, matchAt?_eq_none hstart hfront]; rfl
  | cons c rest ih =>
      rw [Regex.matchesFrom, Regex.nextAt?, matchAt?_eq_none hstart hfront]
      exact ih (by simp)

theorem matchesFrom_eq_toList {parts : List Part} (hstart : Part.textStart ∈ parts)
    (text : List Char) :
    (row parts).matchesFrom none [] text = ((row parts).matchAt? [] text).toList := by
  cases text with
  | nil => rw [Regex.matchesFrom, Regex.nextAt?_none]
  | cons c rest =>
      rw [Regex.matchesFrom, Regex.nextAt?_none]
      cases (row parts).matchAt? [] (c :: rest) with
      | none => exact matchesFrom_eq_nil hstart (by simp) none rest
      | some found =>
          dsimp only
          rw [matchesFrom_eq_nil hstart (by simp)]
          rfl

end Part

end CellGrading.Pattern
