import CellGrading.Pattern.Basic
import CellGrading.Proofs.Bytewise.Access

/-!
# Matches with groups

Where a pattern is found is one question, what its groups match there is another.  An
expression is tried in its ways to match in order of preference: the first branch before the
others, more rounds of a repetition before fewer.  Each way leaves a trail, on which every
closed group is noted with the bytes that it matched.  The first way from a place is the match
there, and matches are taken from left to right.
-/

namespace CellGrading.Pattern

open Text Bytewise

/-! ## Trails -/

structure Span where
  start : Nat
  stop : Nat
  deriving DecidableEq, Repr

/-- How far a way of matching has come in a text, and the groups that it has closed, the last
one first. -/
structure Trail where
  front : List Char
  rest : List Char
  groups : List (Nat × Span)
  deriving DecidableEq, Repr

namespace Trail

def text (trail : Trail) : List Char := trail.front ++ trail.rest

def offset (trail : Trail) : Nat := utf8Size trail.front

def across (chars : CharSet) (trail : Trail) : List Trail :=
  match trail.rest with
  | [] => []
  | c :: rest =>
      if chars.has c.toNat then [{ trail with front := trail.front ++ [c], rest := rest }] else []

/-- Notes a group that was opened on the trail `opened`. -/
def close (number : Nat) (opened trail : Trail) : Trail :=
  { trail with groups := (number, ⟨opened.offset, trail.offset⟩) :: trail.groups }

def rounds (step : Trail → List Trail) : Nat → Trail → List Trail
  | 0, trail => [trail]
  | count + 1, trail => (step trail).flatMap (rounds step count)

/-- The step up to so many times, as often as it goes first.  It is not taken where it stays. -/
def greedily (step : Trail → List Trail) : Nat → Trail → List Trail
  | 0, trail => [trail]
  | count + 1, trail =>
      ((step trail).filter fun next => next.rest.length < trail.rest.length).flatMap
        (greedily step count) ++ [trail]

end Trail

/-! ## Ways to match -/

namespace Regex

def groupCount : Regex → Nat
  | .empty => 0
  | .set _ => 0
  | .look _ => 0
  | .seq first second => first.groupCount + second.groupCount
  | .alt first second => first.groupCount + second.groupCount
  | .repetition body _ _ => body.groupCount
  | .capture body => body.groupCount + 1

/-- The ways in which an expression matches on from a trail, the preferred ones first.  Its
groups are counted from `number` on, by their opening. -/
def ways : Regex → Nat → Trail → List Trail
  | .empty, _, trail => [trail]
  | .set chars, _, trail => trail.across chars
  | .look condition, _, trail =>
      if condition.holds trail.front.getLast? trail.rest.head? then [trail] else []
  | .seq first second, number, trail =>
      (first.ways number trail).flatMap (second.ways (number + first.groupCount))
  | .alt first second, number, trail =>
      first.ways number trail ++ second.ways (number + first.groupCount) trail
  | .repetition body least most, number, trail =>
      (Trail.rounds (body.ways number) least trail).flatMap fun trail =>
        Trail.greedily (body.ways number)
          (match most with
            | none => trail.rest.length
            | some most => most - least) trail
  | .capture body, number, trail =>
      (body.ways (number + 1) trail).map (Trail.close number trail)

/-- The groups that have a part in every match: those that stand neither in a branch nor in a
repetition that may be left out. -/
def required : Regex → Nat → List Nat
  | .seq first second, number =>
      first.required number ++ second.required (number + first.groupCount)
  | .repetition body least _, number => if least = 0 then [] else body.required number
  | .capture body, number => number :: body.required (number + 1)
  | _, _ => []

end Regex

/-! ## Matches -/

structure Match where
  whole : Span
  groups : List (Nat × Span)
  deriving DecidableEq, Repr

namespace Match

/-- The bytes of a group; the group with the number 0 is the whole match. -/
def get? (found : Match) (number : Nat) : Option Span :=
  if number = 0 then some found.whole else found.groups.lookup number

def group (found : Match) (text : String) (number : Nat) : Except Fault String :=
  match found.get? number with
  | some span => slice text span.start span.stop
  | none => .error (.group number)

def follows (last : Nat) (found : Match) : Bool :=
  decide (last ≤ found.whole.start) && decide (last < found.whole.stop)

end Match

namespace Regex

/-- The match at a place, if there is one. -/
def matchAt? (regex : Regex) (front rest : List Char) : Option Match :=
  (regex.ways 1 ⟨front, rest, []⟩).head?.map fun trail =>
    ⟨⟨utf8Size front, trail.offset⟩, trail.groups⟩

def nextAt? (regex : Regex) (last : Option Nat) (front rest : List Char) : Option Match :=
  (regex.matchAt? front rest).filter fun found => last.all found.follows

/-- The matches from a place on.  None begins within the one before, and none is empty right
behind it. -/
def matchesFrom (regex : Regex) (last : Option Nat) (front : List Char) :
    List Char → List Match
  | [] => (regex.nextAt? last front []).toList
  | c :: rest =>
      match regex.nextAt? last front (c :: rest) with
      | some found => found :: regex.matchesFrom (some found.whole.stop) (front ++ [c]) rest
      | none => regex.matchesFrom last (front ++ [c]) rest

end Regex

end CellGrading.Pattern

namespace CellGrading.Bytewise

open Pattern

def allMatches (pattern text : String) : Except Fault (List Match) :=
  match compile? pattern with
  | some regex => .ok (regex.matchesFrom none [] text.toList)
  | none => .error (.pattern pattern)

def firstMatch? (pattern text : String) : Except Fault (Option Match) := do
  let found ← allMatches pattern text
  return found.head?

end CellGrading.Bytewise

namespace CellGrading.Pattern

open Text Bytewise

/-! ## What a way reads -/

def Span.LiesIn (text : List Char) (span : Span) : Prop :=
  ∃ before piece after, text = before ++ (piece ++ after) ∧
    span = ⟨utf8Size before, utf8Size (before ++ piece)⟩

/-- The later trail has read on in the text, and what it has noted since lies in the text. -/
structure Trail.Leads (earlier later : Trail) : Prop where
  piece : ∃ piece, earlier.rest = piece ++ later.rest ∧ later.front = earlier.front ++ piece
  groups : ∃ new, later.groups = new ++ earlier.groups ∧
    ∀ entry ∈ new, Span.LiesIn later.text entry.2

namespace Trail.Leads

variable {first second third : Trail}

theorem text_eq (h : first.Leads second) : second.text = first.text := by
  obtain ⟨piece, hrest, hfront⟩ := h.piece
  rw [text, text, hrest, hfront, List.append_assoc]

theorem refl (trail : Trail) : trail.Leads trail := ⟨⟨[], by simp⟩, ⟨[], by simp⟩⟩

theorem trans (h : first.Leads second) (hon : second.Leads third) : first.Leads third := by
  obtain ⟨⟨piece, hrest, hfront⟩, new, hgroups, hnew⟩ := h
  obtain ⟨⟨piece', hrest', hfront'⟩, new', hgroups', hnew'⟩ := hon
  refine ⟨⟨piece ++ piece', ?_, ?_⟩, new' ++ new, ?_, ?_⟩
  · rw [hrest, hrest', List.append_assoc]
  · rw [hfront', hfront, List.append_assoc]
  · rw [hgroups', hgroups, List.append_assoc]
  · rw [← text_eq ⟨⟨piece', hrest', hfront'⟩, new', hgroups', hnew'⟩] at hnew
    exact List.forall_mem_append.2 ⟨hnew', hnew⟩

theorem across {chars : CharSet} (h : second ∈ first.across chars) : first.Leads second := by
  unfold Trail.across at h
  split at h
  · cases h
  · next c rest hrest =>
      split at h
      · obtain rfl := List.mem_singleton.1 h
        exact ⟨⟨[c], hrest, rfl⟩, [], rfl, by simp⟩
      · cases h

/-- The group that is closed has matched what was read since it was opened. -/
theorem close (number : Nat) (h : first.Leads second) :
    first.Leads (close number first second) := by
  obtain ⟨⟨piece, hrest, hfront⟩, new, hgroups, hnew⟩ := h
  refine ⟨⟨piece, hrest, hfront⟩, (number, ⟨first.offset, second.offset⟩) :: new, ?_, ?_⟩
  · rw [Trail.close, hgroups, List.cons_append]
  · refine List.forall_mem_cons.2 ⟨⟨first.front, piece, second.rest, ?_, ?_⟩, hnew⟩
    · rw [text, Trail.close, hfront, List.append_assoc]
    · rw [offset, offset, hfront]

section

variable {step : Trail → List Trail} (hstep : ∀ trail, ∀ next ∈ step trail, trail.Leads next)
include hstep

theorem rounds {count : Nat} (h : second ∈ first.rounds step count) : first.Leads second := by
  induction count generalizing first with
  | zero =>
      obtain rfl := List.mem_singleton.1 h
      exact refl second
  | succ count ih =>
      obtain ⟨next, hnext, hsecond⟩ := List.mem_flatMap.1 h
      exact (hstep first next hnext).trans (ih hsecond)

theorem greedily {count : Nat} (h : second ∈ first.greedily step count) : first.Leads second := by
  induction count generalizing first with
  | zero =>
      obtain rfl := List.mem_singleton.1 h
      exact refl second
  | succ count ih =>
      rcases List.mem_append.1 h with hmore | hstay
      · obtain ⟨next, hnext, hsecond⟩ := List.mem_flatMap.1 hmore
        exact (hstep first next (List.mem_filter.1 hnext).1).trans (ih hsecond)
      · obtain rfl := List.mem_singleton.1 hstay
        exact refl second

end

end Trail.Leads

namespace Regex

variable {earlier later : Trail}

theorem leads_of_mem_ways (regex : Regex) {number : Nat} (h : later ∈ regex.ways number earlier) :
    earlier.Leads later := by
  induction regex generalizing number earlier later with
  | empty =>
      obtain rfl := List.mem_singleton.1 h
      exact .refl later
  | set chars => exact .across h
  | look condition =>
      rw [ways] at h
      split at h
      · obtain rfl := List.mem_singleton.1 h
        exact .refl later
      · cases h
  | seq first second ihfirst ihsecond =>
      obtain ⟨middle, hfirst, hsecond⟩ := List.mem_flatMap.1 h
      exact (ihfirst hfirst).trans (ihsecond hsecond)
  | alt first second ihfirst ihsecond =>
      exact (List.mem_append.1 h).elim (fun hfirst => ihfirst hfirst) fun hsecond =>
        ihsecond hsecond
  | repetition body least most ih =>
      have hstep : ∀ trail, ∀ next ∈ body.ways number trail, trail.Leads next :=
        fun trail next hnext => ih hnext
      obtain ⟨middle, hrounds, hmore⟩ := List.mem_flatMap.1 h
      exact (Trail.Leads.rounds hstep hrounds).trans (Trail.Leads.greedily hstep hmore)
  | capture body ih =>
      obtain ⟨inner, hinner, rfl⟩ := List.mem_map.1 h
      exact (ih hinner).close number

theorem mem_groups_of_leads (h : earlier.Leads later) {entry : Nat × Span}
    (hentry : entry ∈ earlier.groups) : entry ∈ later.groups := by
  obtain ⟨new, hgroups, -⟩ := h.groups
  rw [hgroups]
  exact List.mem_append_right new hentry

theorem mem_groups_of_required (regex : Regex) {number : Nat}
    (h : later ∈ regex.ways number earlier) {required : Nat}
    (hrequired : required ∈ regex.required number) : ∃ span, (required, span) ∈ later.groups := by
  induction regex generalizing number earlier later with
  | empty => cases hrequired
  | set chars => cases hrequired
  | look condition => cases hrequired
  | alt first second => cases hrequired
  | seq first second ihfirst ihsecond =>
      obtain ⟨middle, hfirst, hsecond⟩ := List.mem_flatMap.1 h
      rcases List.mem_append.1 hrequired with hmem | hmem
      · obtain ⟨span, hspan⟩ := ihfirst hfirst hmem
        exact ⟨span, mem_groups_of_leads (leads_of_mem_ways second hsecond) hspan⟩
      · exact ihsecond hsecond hmem
  | repetition body least most ih =>
      have hstep : ∀ trail, ∀ next ∈ body.ways number trail, trail.Leads next :=
        fun trail next hnext => leads_of_mem_ways body hnext
      obtain ⟨middle, hrounds, hmore⟩ := List.mem_flatMap.1 h
      rw [Regex.required] at hrequired
      split at hrequired
      · cases hrequired
      · next hleast =>
          obtain ⟨count, rfl⟩ := Nat.exists_eq_succ_of_ne_zero hleast
          obtain ⟨next, hnext, hrest⟩ := List.mem_flatMap.1 hrounds
          obtain ⟨span, hspan⟩ := ih hnext hrequired
          have hleads := (Trail.Leads.rounds hstep hrest).trans (.greedily hstep hmore)
          exact ⟨span, mem_groups_of_leads hleads hspan⟩
  | capture body ih =>
      obtain ⟨inner, hinner, rfl⟩ := List.mem_map.1 h
      rcases List.mem_cons.1 hrequired with rfl | hmem
      · exact ⟨_, List.mem_cons_self⟩
      · obtain ⟨span, hspan⟩ := ih hinner hmem
        exact ⟨span, List.mem_cons_of_mem _ hspan⟩

end Regex

/-! ## What a match holds -/

structure Match.LiesIn (text : List Char) (found : Match) : Prop where
  whole : found.whole.LiesIn text
  groups : ∀ entry ∈ found.groups, Span.LiesIn text entry.2

namespace Regex

theorem exists_way_of_matchAt? {regex : Regex} {front rest : List Char} {found : Match}
    (h : regex.matchAt? front rest = some found) :
    ∃ trail ∈ regex.ways 1 ⟨front, rest, []⟩,
      found = ⟨⟨utf8Size front, trail.offset⟩, trail.groups⟩ := by
  obtain ⟨trail, htrail, rfl⟩ := Option.map_eq_some_iff.1 h
  exact ⟨trail, List.mem_of_head? htrail, rfl⟩

theorem liesIn_of_matchAt? {regex : Regex} {front rest : List Char} {found : Match}
    (h : regex.matchAt? front rest = some found) : found.LiesIn (front ++ rest) := by
  obtain ⟨trail, htrail, rfl⟩ := exists_way_of_matchAt? h
  have hleads := leads_of_mem_ways regex htrail
  obtain ⟨piece, hrest, hfront⟩ := hleads.piece
  obtain ⟨new, hgroups, hnew⟩ := hleads.groups
  have htext : trail.text = front ++ rest := hleads.text_eq
  constructor
  · refine ⟨front, piece, trail.rest, congrArg (front ++ ·) hrest, ?_⟩
    rw [Trail.offset, hfront]
  · rw [hgroups, List.append_nil]
    exact htext ▸ hnew

theorem exists_get?_of_required {regex : Regex} {front rest : List Char} {found : Match}
    (h : regex.matchAt? front rest = some found) {number : Nat}
    (hnumber : number ∈ regex.required 1) : ∃ span, found.get? number = some span := by
  obtain ⟨trail, htrail, rfl⟩ := exists_way_of_matchAt? h
  obtain ⟨span, hspan⟩ := mem_groups_of_required regex htrail hnumber
  rw [Match.get?]
  split
  · exact ⟨_, rfl⟩
  · cases hlookup : trail.groups.lookup number with
    | some span => exact ⟨span, rfl⟩
    | none =>
        rw [List.lookup_eq_none_iff] at hlookup
        simpa using hlookup _ hspan

end Regex

theorem Match.LiesIn.exists_group {text : String} {found : Match} (h : found.LiesIn text.toList)
    {number : Nat} {span : Span} (hspan : found.get? number = some span) :
    ∃ piece, found.group text number = .ok piece := by
  have hlies : span.LiesIn text.toList := by
    rw [Match.get?] at hspan
    split at hspan
    · cases hspan
      exact h.whole
    · obtain ⟨later, earlier, hgroups, -⟩ := List.lookup_eq_some_iff.1 hspan
      exact h.groups (number, span) (hgroups ▸ by simp)
  obtain ⟨before, piece, after, htext, rfl⟩ := hlies
  exact ⟨.ofList piece, by rw [Match.group, hspan]; exact slice_of_append _ _ _ htext⟩

/-! ## One match behind the other -/

/-- Each match begins where the one before has ended or later, the first of them not before the
byte `last`, and ends within the text, both between two characters. -/
def InOrder (text : List Char) (last : Nat) : List Match → Prop
  | [] => True
  | ⟨⟨start, stop⟩, _⟩ :: rest =>
      last ≤ start ∧ start ≤ stop ∧ stop ≤ utf8Size text ∧
        IsBoundary text start ∧ IsBoundary text stop ∧ InOrder text stop rest

theorem inOrder_cons {text : List Char} {last : Nat} {found : Match} {rest : List Match}
    (hlast : last ≤ found.whole.start) (hfound : found.LiesIn text)
    (hrest : InOrder text found.whole.stop rest) : InOrder text last (found :: rest) := by
  obtain ⟨⟨start, stop⟩, groups⟩ := found
  obtain ⟨⟨before, piece, after, htext, hspan⟩, -⟩ := hfound
  obtain ⟨rfl, rfl⟩ := Span.mk.inj hspan
  obtain ⟨hstart, hstop⟩ := isBoundary_of_append htext
  exact ⟨hlast, utf8Size_le_append before piece, hstop.le, hstart, hstop, hrest⟩

namespace Regex

theorem nextAt?_eq_some_iff {regex : Regex} {last : Option Nat} {front rest : List Char}
    {found : Match} : regex.nextAt? last front rest = some found ↔
      regex.matchAt? front rest = some found ∧ ∀ stop ∈ last, found.follows stop = true := by
  rw [nextAt?, Option.filter_eq_some_iff]
  cases last <;> simp

@[simp] theorem nextAt?_none (regex : Regex) (front rest : List Char) :
    regex.nextAt? none front rest = regex.matchAt? front rest := by
  rw [nextAt?]
  cases regex.matchAt? front rest <;> rfl

theorem exists_place_of_mem_matchesFrom {regex : Regex} {last : Option Nat}
    {front rest : List Char} {found : Match} (h : found ∈ regex.matchesFrom last front rest) :
    ∃ before after, before ++ after = front ++ rest ∧ regex.matchAt? before after = some found := by
  induction rest generalizing last front with
  | nil =>
      have hnext := nextAt?_eq_some_iff.1 (Option.mem_toList.1 h)
      exact ⟨front, [], rfl, hnext.1⟩
  | cons c rest ih =>
      have hrest : ∀ {last}, found ∈ regex.matchesFrom last (front ++ [c]) rest →
          ∃ before after, before ++ after = front ++ c :: rest ∧
            regex.matchAt? before after = some found := by
        intro last hmem
        obtain ⟨before, after, htext, hat⟩ := ih hmem
        exact ⟨before, after, by rw [htext, List.append_assoc, List.singleton_append], hat⟩
      rw [matchesFrom] at h
      split at h
      · next first hfirst =>
          rcases List.mem_cons.1 h with rfl | hmem
          · exact ⟨front, c :: rest, rfl, (nextAt?_eq_some_iff.1 hfirst).1⟩
          · exact hrest hmem
      · exact hrest h

theorem exists_group_of_required {regex : Regex} {text : String} {found : Match}
    (h : found ∈ regex.matchesFrom none [] text.toList) {number : Nat}
    (hnumber : number ∈ 0 :: regex.required 1) : ∃ piece, found.group text number = .ok piece := by
  obtain ⟨before, after, htext, hat⟩ := exists_place_of_mem_matchesFrom h
  have hlies : found.LiesIn text.toList := by
    have hlies := liesIn_of_matchAt? hat
    rwa [htext, List.nil_append] at hlies
  rcases List.mem_cons.1 hnumber with rfl | hnumber
  · exact hlies.exists_group (show found.get? 0 = some found.whole from rfl)
  · obtain ⟨span, hspan⟩ := exists_get?_of_required hat hnumber
    exact hlies.exists_group hspan

theorem inOrder_matchesFrom (regex : Regex) (last : Option Nat) (front rest : List Char) :
    InOrder (front ++ rest) (last.getD 0) (regex.matchesFrom last front rest) := by
  have hnext : ∀ {last front rest found}, regex.nextAt? last front rest = some found →
      last.getD 0 ≤ found.whole.start ∧ found.LiesIn (front ++ rest) := by
    intro last front rest found hnext
    obtain ⟨hat, hfollows⟩ := nextAt?_eq_some_iff.1 hnext
    refine ⟨?_, liesIn_of_matchAt? hat⟩
    cases last with
    | none => exact Nat.zero_le _
    | some stop =>
        have hstop := hfollows stop rfl
        rw [Match.follows, Bool.and_eq_true] at hstop
        exact of_decide_eq_true hstop.1
  induction rest generalizing last front with
  | nil =>
      rw [matchesFrom]
      cases hfirst : regex.nextAt? last front [] with
      | none => exact trivial
      | some found => exact inOrder_cons (hnext hfirst).1 (hnext hfirst).2 trivial
  | cons c rest ih =>
      have htext : front ++ c :: rest = (front ++ [c]) ++ rest := by simp
      rw [matchesFrom]
      split
      · next found hfirst =>
          exact inOrder_cons (hnext hfirst).1 (hnext hfirst).2
            (htext ▸ ih (some found.whole.stop) _)
      · exact htext ▸ ih last _

end Regex

end CellGrading.Pattern
