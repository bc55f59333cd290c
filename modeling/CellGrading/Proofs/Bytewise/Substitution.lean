import CellGrading.Proofs.Bytewise.Pattern
import CellGrading.Proofs.Symbol.Reference

/-!
# Substitution by byte

References are found with a pattern, and the texts between them are sliced out of the text at
the bytes where one match has ended and the next begins.  All matches of the pattern together
are the references that the scan of the text finds, so every slice is there.
-/

namespace CellGrading.Pattern

open Text Bytewise

/-! ## Matches behind a match -/

namespace Regex

theorem nextAt?_eq_none_of_lt {regex : Regex} {front rest : List Char} {last : Nat}
    (h : utf8Size front < last) : regex.nextAt? (some last) front rest = none := by
  cases hnext : regex.nextAt? (some last) front rest with
  | none => rfl
  | some found =>
      obtain ⟨hat, hfollows⟩ := nextAt?_eq_some_iff.1 hnext
      obtain ⟨trail, -, rfl⟩ := exists_way_of_matchAt? hat
      have hlast := hfollows last rfl
      rw [Match.follows, Bool.and_eq_true] at hlast
      exact absurd (of_decide_eq_true hlast.1) (Nat.not_le.2 h)

theorem matchesFrom_within (regex : Regex) (front piece rest : List Char) :
    regex.matchesFrom (some (utf8Size (front ++ piece))) front (piece ++ rest) =
      regex.matchesFrom (some (utf8Size (front ++ piece))) (front ++ piece) rest := by
  induction piece generalizing front with
  | nil => simp
  | cons c piece ih =>
      have hlt : utf8Size front < utf8Size (front ++ c :: piece) := by
        have hc := c.utf8Size_pos
        rw [utf8Size_append, utf8Size_cons]
        omega
      rw [List.cons_append, matchesFrom, nextAt?_eq_none_of_lt hlt]
      have hrest := ih (front ++ [c])
      rwa [List.append_assoc, List.singleton_append] at hrest

end Regex

theorem Trail.across_cons {chars : CharSet} (front : List Char) {c : Char} (rest : List Char)
    (groups : List (Nat × Span)) (h : chars.has c.toNat = true) :
    Trail.across chars ⟨front, c :: rest, groups⟩ = [⟨front ++ [c], rest, groups⟩] := by
  simp [across, h]

theorem Trail.head?_greedily_across (chars : CharSet) {sort : Char → Bool}
    (hsort : ∀ c : Char, chars.has c.toNat = sort c) {fuel : Nat} {trail : Trail}
    (hfuel : trail.rest.length ≤ fuel) :
    (trail.greedily (Trail.across chars) fuel).head? =
      some (trail.past (trail.rest.takeWhile sort) (trail.rest.dropWhile sort)) := by
  induction fuel generalizing trail with
  | zero =>
      have hnil : trail.rest = [] := List.length_eq_zero_iff.1 (Nat.le_zero.1 hfuel)
      have hpast := trail.past_nil
      rw [hnil] at hpast
      rw [hnil, Trail.greedily, List.takeWhile_nil, List.dropWhile_nil, hpast]
      rfl
  | succ fuel ih =>
      obtain ⟨front, rest, groups⟩ := trail
      rw [Trail.greedily]
      cases rest with
      | nil => simp [across, past]
      | cons c rest =>
          have hrest : rest.length ≤ fuel := Nat.le_of_succ_le_succ hfuel
          cases hc : sort c with
          | false => simp [across, past, hsort, hc]
          | true =>
              have hmore := @ih ⟨front ++ [c], rest, groups⟩ hrest
              simp [across, past, hsort, hc, hmore]

end CellGrading.Pattern

namespace CellGrading.Bytewise

open Text Pattern

/-! ## Matches of references -/

def symbolRegex : Regex := .seq (.set (.single '$')) (.capture nameRegex)

set_option maxRecDepth 100000 in
theorem compile?_symbol : compile? symbolPattern = some symbolRegex := rfl

def referenceMatch (front name : List Char) : Match where
  whole := ⟨utf8Size front, utf8Size (front ++ '$' :: name)⟩
  groups := [(1, ⟨utf8Size (front ++ ['$']), utf8Size (front ++ '$' :: name)⟩)]

theorem matchAt?_reference (front : List Char) {first : Char} (hfirst : first.isAlpha = true)
    (rest : List Char) :
    symbolRegex.matchAt? front ('$' :: first :: rest) =
      some (referenceMatch front (first :: rest.takeWhile isWord)) := by
  have hdollar := Trail.across_cons front (first :: rest) []
    (show (CharSet.single '$').has '$'.toNat = true from (CharSet.has_single _ _).2 rfl)
  have hletter := Trail.across_cons (front ++ ['$']) rest [] ((has_letters first).2 hfirst)
  have hways : symbolRegex.ways 1 ⟨front, '$' :: first :: rest, []⟩ =
      (Trail.greedily (Trail.across .word) rest.length
        ⟨front ++ ['$'] ++ [first], rest, []⟩).map
          (Trail.close 1 ⟨front ++ ['$'], first :: rest, []⟩) := by
    simp only [symbolRegex, nameRegex, Regex.ways, hdollar, hletter, Trail.rounds,
      List.flatMap_singleton]
    rfl
  have hhead := @Trail.head?_greedily_across .word _ has_word _
    ⟨front ++ ['$'] ++ [first], rest, []⟩ (Nat.le_refl _)
  rw [Regex.matchAt?, hways, List.head?_map, hhead]
  simp [Trail.close, Trail.past, Trail.offset, referenceMatch]

theorem matchAt?_eq_none_of_not_reference (front : List Char) {text : List Char}
    (h : ∀ first rest, text = '$' :: first :: rest → first.isAlpha = false) :
    symbolRegex.matchAt? front text = none := by
  cases hat : symbolRegex.matchAt? front text with
  | none => rfl
  | some found =>
      obtain ⟨trail, htrail, -⟩ := Regex.exists_way_of_matchAt? hat
      obtain ⟨middle, hmiddle, hname⟩ := List.mem_flatMap.1 htrail
      obtain ⟨c, rest, hc, hrest, rfl⟩ := Trail.mem_across_iff.1 hmiddle
      obtain ⟨inner, hinner, -⟩ := List.mem_map.1 hname
      obtain ⟨name, behind, ⟨first, tail, rfl, hfirst, -⟩, hbehind, -⟩ :=
        (spells_name.mem_ways_iff _ _ _).1 hinner
      obtain rfl := (CharSet.has_single _ _).1 hc
      have hrest : text = '$' :: rest := hrest
      have hbehind : rest = first :: (tail ++ behind) := hbehind
      rw [h first _ (hbehind ▸ hrest)] at hfirst
      cases hfirst

theorem matchesFrom_of_not_reference (last : Option Nat) (front : List Char) {c : Char}
    {rest : List Char}
    (h : ∀ first behind, c :: rest = '$' :: first :: behind → first.isAlpha = false) :
    symbolRegex.matchesFrom last front (c :: rest) =
      symbolRegex.matchesFrom last (front ++ [c]) rest := by
  rw [Regex.matchesFrom, Regex.nextAt?, matchAt?_eq_none_of_not_reference front h]
  rfl

theorem matchesFrom_nil (last : Option Nat) (front : List Char) :
    symbolRegex.matchesFrom last front [] = [] := by
  rw [Regex.matchesFrom, Regex.nextAt?, matchAt?_eq_none_of_not_reference front (by simp)]
  rfl

theorem matchesFrom_reference {last : Option Nat} {front : List Char}
    (hlast : ∀ stop ∈ last, stop ≤ utf8Size front) {first : Char} (hfirst : first.isAlpha = true)
    (rest : List Char) :
    symbolRegex.matchesFrom last front ('$' :: first :: rest) =
      referenceMatch front (first :: rest.takeWhile isWord) ::
        symbolRegex.matchesFrom
          (some (utf8Size (front ++ '$' :: first :: rest.takeWhile isWord)))
          (front ++ '$' :: first :: rest.takeWhile isWord) (rest.dropWhile isWord) := by
  have hnext : symbolRegex.nextAt? last front ('$' :: first :: rest) =
      some (referenceMatch front (first :: rest.takeWhile isWord)) := by
    refine Regex.nextAt?_eq_some_iff.2 ⟨matchAt?_reference front hfirst rest, ?_⟩
    intro stop hstop
    have hle := hlast stop hstop
    have hdollar : '$'.utf8Size = 1 := rfl
    simp only [Match.follows, referenceMatch, utf8Size_append, utf8Size_cons, hdollar,
      Bool.and_eq_true, decide_eq_true_eq]
    omega
  have hwithin := symbolRegex.matchesFrom_within (front ++ ['$'])
    (first :: rest.takeWhile isWord) (rest.dropWhile isWord)
  rw [List.append_assoc, List.singleton_append, List.cons_append,
    List.takeWhile_append_dropWhile] at hwithin
  rw [Regex.matchesFrom, hnext]
  exact congrArg _ hwithin

/-! ## Substitution -/

/-- What has been written so far, and the byte where the last match has ended. -/
structure Copy where
  compare : String
  display : String
  last : Nat

namespace Copy

def advance (text : String) (lookup : Lookup) (copy : Copy) (found : Match) :
    Except Fault Copy := do
  match found.get? 0 with
  | none => return copy
  | some token =>
      let name ← found.group text 1
      let between ← slice text copy.last token.start
      let written ← slice text token.start token.stop
      match lookup name with
      | some value =>
          return ⟨copy.compare ++ between ++ value,
            copy.display ++ between ++ (written ++ "->[" ++ value ++ "]"), token.stop⟩
      | none =>
          return ⟨copy.compare ++ between ++ written, copy.display ++ between ++ written,
            token.stop⟩

def finish (text : String) (lookup : Lookup) (copy : Copy) (found : List Match) :
    Except Fault Substitution := do
  let copy ← found.foldlM (advance text lookup) copy
  let behind ← slice text copy.last text.utf8ByteSize
  return ⟨copy.compare ++ behind, copy.display ++ behind⟩

end Copy

def substitute (text : String) (lookup : Lookup) : Except Fault Substitution := do
  let found ← allMatches symbolPattern text
  Copy.finish text lookup ⟨"", "", 0⟩ found

namespace Copy

theorem advance_reference {text : String} (lookup : Lookup) {before between name after : List Char}
    (htext : text.toList = before ++ (between ++ ('$' :: name ++ after)))
    (compare display : String) :
    advance text lookup ⟨compare, display, utf8Size before⟩
        (referenceMatch (before ++ between) name) =
      .ok ⟨compare ++ .ofList (between ++ Piece.compared lookup (.reference name)),
        display ++ .ofList (between ++ Piece.displayed lookup (.reference name)),
        utf8Size (before ++ between ++ '$' :: name)⟩ := by
  have hname : (referenceMatch (before ++ between) name).group text 1 = .ok (.ofList name) := by
    have hslice := slice_of_append (before ++ between ++ ['$']) name after
      (htext.trans (by simp))
    rwa [List.append_assoc _ ['$'], List.singleton_append] at hslice
  have hbetween : slice text (utf8Size before) (utf8Size (before ++ between)) =
      .ok (.ofList between) := slice_of_append _ _ _ htext
  have hwritten : slice text (utf8Size (before ++ between))
      (utf8Size (before ++ between ++ '$' :: name)) = .ok (.ofList ('$' :: name)) :=
    slice_of_append _ _ after (by rw [htext, List.append_assoc])
  have hget : (referenceMatch (before ++ between) name).get? 0 =
      some ⟨utf8Size (before ++ between), utf8Size (before ++ between ++ '$' :: name)⟩ := rfl
  simp only [advance, hget, hname, hbetween, hwritten, bind, Except.bind, Piece.compared,
    Piece.displayed]
  cases lookup (.ofList name) with
  | none =>
      simp only [String.append_assoc, String.ofList_append]
      rfl
  | some value =>
      have hopen : "->[" = String.ofList ['-', '>', '['] := rfl
      have hclose : "]" = String.ofList [']'] := rfl
      simp only [hopen, hclose, String.append_assoc, String.ofList_append, String.ofList_toList]
      rfl

theorem finish_cons {text : String} {lookup : Lookup} {copy next : Copy} {first : Match}
    (h : advance text lookup copy first = .ok next) (rest : List Match) :
    finish text lookup copy (first :: rest) = finish text lookup next rest := by
  simp only [finish, List.foldlM_cons, h]
  rfl

theorem finish_nil {text : String} (lookup : Lookup) {before between : List Char}
    (htext : text.toList = before ++ between) (compare display : String) :
    finish text lookup ⟨compare, display, utf8Size before⟩ [] =
      .ok ⟨compare ++ .ofList between, display ++ .ofList between⟩ := by
  have hbehind := slice_of_append before between [] (htext.trans (by simp))
  rw [← htext, utf8Size_toList] at hbehind
  simp only [finish, List.foldlM_nil, pure, Except.pure, bind, Except.bind, hbehind]

/-- The matches from a place on are the references from there on: after them everything has
been written that the scan writes, with what stood between the last match and the place. -/
theorem finish_matchesFrom {text : String} (lookup : Lookup) {before between rest : List Char}
    (htext : text.toList = before ++ (between ++ rest)) {last : Option Nat}
    (hlast : ∀ stop ∈ last, stop = utf8Size before) (compare display : String) :
    finish text lookup ⟨compare, display, utf8Size before⟩
        (symbolRegex.matchesFrom last (before ++ between) rest) =
      .ok ⟨compare ++ .ofList (between ++ (Piece.split rest).flatMap (Piece.compared lookup)),
        display ++ .ofList (between ++ (Piece.split rest).flatMap (Piece.displayed lookup))⟩ := by
  fun_induction Piece.split rest generalizing before between last compare display with
  | case1 =>
      rw [List.append_nil] at htext
      simpa [matchesFrom_nil] using finish_nil lookup htext compare display
  | case2 c =>
      rw [matchesFrom_of_not_reference last _ (by simp), matchesFrom_nil]
      exact finish_nil lookup htext compare display
  | case3 c first rest hreference ih =>
      obtain ⟨rfl, hfirst⟩ := hreference
      have hfollows : ∀ stop ∈ last, stop ≤ utf8Size (before ++ between) := by
        intro stop hstop
        rw [hlast stop hstop]
        exact utf8Size_le_append before between
      have htext : text.toList = before ++ (between ++
          ('$' :: (first :: rest.takeWhile isWord) ++ rest.dropWhile isWord)) := by
        simpa [List.takeWhile_append_dropWhile] using htext
      have hadvance := advance_reference lookup htext compare display
      have hrest := @ih (before ++ between ++ '$' :: first :: rest.takeWhile isWord) []
        (htext.trans (by simp))
        (some (utf8Size (before ++ between ++ '$' :: first :: rest.takeWhile isWord))) (by simp)
        (compare ++ .ofList (between ++ Piece.compared lookup
          (.reference (first :: rest.takeWhile isWord))))
        (display ++ .ofList (between ++ Piece.displayed lookup
          (.reference (first :: rest.takeWhile isWord))))
      rw [List.append_nil] at hrest
      rw [matchesFrom_reference hfollows hfirst, finish_cons hadvance, hrest]
      simp only [List.flatMap_cons, List.nil_append, String.ofList_append, String.append_assoc]
  | case4 c first rest hchar ih =>
      have hnone : ∀ d behind, c :: first :: rest = '$' :: d :: behind → d.isAlpha = false := by
        rintro d behind ⟨⟩
        simpa using hchar
      rw [matchesFrom_of_not_reference last _ hnone]
      have hrest := @ih before (between ++ [c]) (htext.trans (by simp)) last hlast compare display
      rw [← List.append_assoc] at hrest
      simpa [Piece.compared, Piece.displayed] using hrest

end Copy

theorem substitute_eq (text : String) (lookup : Lookup) :
    substitute text lookup = .ok (CellGrading.substitute text lookup) := by
  have hfinish := @Copy.finish_matchesFrom text lookup [] [] text.toList rfl none (by simp) "" ""
  simp only [substitute, allMatches, compile?_symbol, bind, Except.bind]
  simpa [CellGrading.substitute] using hfinish

end CellGrading.Bytewise
