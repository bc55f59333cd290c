import CellGrading.Pattern.Basic
import CellGrading.Proofs.Pattern.Search

/-!
# Compiled patterns

However a pattern is read, no repetition in its tree asks for more times than it
allows, and the expression that the tree means keeps to that.  So a search with a
pattern that means an expression finds it exactly where a stretch of the text is
accepted.
-/

namespace CellGrading.Pattern

/-! ## Trees -/

namespace Tree

mutual

def WellFormed : Tree → Prop
  | .repetition body least most => body.WellFormed ∧ ∀ limit ∈ most, least ≤ limit
  | .capture body => body.WellFormed
  | .group _ body => body.WellFormed
  | .concat parts => AllWellFormed parts
  | .alternation branches => AllWellFormed branches
  | _ => True

def AllWellFormed : List Tree → Prop
  | [] => True
  | tree :: rest => tree.WellFormed ∧ AllWellFormed rest

end

theorem allWellFormed_iff (trees : List Tree) :
    AllWellFormed trees ↔ ∀ tree ∈ trees, tree.WellFormed := by
  induction trees with
  | nil => simp [AllWellFormed]
  | cons tree rest ih => rw [AllWellFormed, ih, List.forall_mem_cons]

namespace AllWellFormed

variable {trees : List Tree} (h : AllWellFormed trees)
include h

theorem reverse : AllWellFormed trees.reverse := by
  rw [allWellFormed_iff] at h ⊢
  intro tree htree
  exact h tree (List.mem_reverse.1 htree)

theorem ofParts : (ofParts trees).WellFormed := by
  match trees, h with
  | [], _ => exact trivial
  | [_], h => exact h.1
  | _ :: _ :: _, h => exact h

theorem ofBranches : (ofBranches trees).WellFormed := by
  match trees, h with
  | [], _ => exact trivial
  | [_], h => exact h.1
  | _ :: _ :: _, h => exact h

end AllWellFormed

end Tree

/-! ## What is read of a pattern -/

structure OpenGroup.WellFormed (group : OpenGroup) : Prop where
  close (tree : Tree) : tree.WellFormed → (group.close tree).WellFormed
  parts : Tree.AllWellFormed group.parts
  branches : Tree.AllWellFormed group.branches

structure Progress.WellFormed (state : Progress) : Prop where
  parts : Tree.AllWellFormed state.parts
  branches : Tree.AllWellFormed state.branches
  outer : ∀ group ∈ state.outer, group.WellFormed

namespace Progress

theorem wellFormed_start : start.WellFormed := ⟨trivial, trivial, by simp [start]⟩

namespace WellFormed

variable {state next : Progress} (h : state.WellFormed)
include h

theorem push {tree : Tree} (htree : tree.WellFormed) : (state.push tree).WellFormed :=
  ⟨⟨htree, h.parts⟩, h.branches, h.outer⟩

theorem branch : state.branch.WellFormed :=
  ⟨trivial, ⟨h.parts.reverse.ofParts, h.branches⟩, h.outer⟩

theorem content : state.content.WellFormed := by
  have hbranches : Tree.AllWellFormed (Tree.ofParts state.parts.reverse :: state.branches) :=
    ⟨h.parts.reverse.ofParts, h.branches⟩
  exact hbranches.reverse.ofBranches

theorem enter (close : Tree → Tree)
    (hclose : ∀ tree : Tree, tree.WellFormed → (close tree).WellFormed) (verbose : Bool) :
    (state.enter close verbose).WellFormed :=
  ⟨trivial, trivial, List.forall_mem_cons.2 ⟨⟨hclose, h.parts, h.branches⟩, h.outer⟩⟩

theorem openGroup? {head : GroupHead} (hopen : state.openGroup? head = some next) :
    next.WellFormed := by
  rcases head with (_ | name) | change | change
  · cases hopen
    exact h.enter .capture (fun _ hbody => hbody) _
  · rw [Progress.openGroup?] at hopen
    split at hopen
    · cases hopen
    · cases hopen
      have hnamed : Progress.WellFormed { state with names := name :: state.names } :=
        ⟨h.parts, h.branches, h.outer⟩
      exact hnamed.enter .capture (fun _ hbody => hbody) _
  · cases hopen
    exact h.enter (.group change) (fun _ hbody => hbody) _
  · cases hopen
    exact ⟨⟨trivial, h.parts⟩, h.branches, h.outer⟩

theorem closeGroup? (hclose : state.closeGroup? = some next) : next.WellFormed := by
  rw [Progress.closeGroup?] at hclose
  split at hclose
  · cases hclose
  · next group outer houter =>
      cases hclose
      obtain ⟨hgroup, hrest⟩ := List.forall_mem_cons.1 (houter ▸ h.outer)
      exact ⟨⟨hgroup.close _ h.content, hgroup.parts⟩, hgroup.branches, hrest⟩

theorem repeat? {least : Nat} {most : Option Nat} (hbounds : ∀ limit ∈ most, least ≤ limit)
    (hrepeat : state.repeat? least most = some next) : next.WellFormed := by
  rw [Progress.repeat?] at hrepeat
  split at hrepeat
  · cases hrepeat
  · cases hrepeat
  · cases hrepeat
  · next part parts _ _ hparts =>
      cases hrepeat
      obtain ⟨hpart, hrest⟩ : Tree.AllWellFormed (part :: parts) := hparts ▸ h.parts
      exact ⟨⟨⟨hpart, hbounds⟩, hrest⟩, h.branches, h.outer⟩

end WellFormed

end Progress

/-! ## Steps of the reader -/

theorem le_of_readCounts? {verbose : Bool} {text rest : List Char} {least : Nat}
    {most : Option Nat} (h : readCounts? verbose text = some ((least, most), rest)) :
    ∀ limit ∈ most, least ≤ limit := by
  simp only [readCounts?, Option.bind_eq_bind, Option.bind_eq_some_iff] at h
  obtain ⟨first, -, h⟩ := h
  split at h
  · cases h
    rintro limit ⟨⟩
    exact Nat.le_refl _
  · split at h
    · cases h
      rintro limit ⟨⟩
    · obtain ⟨second, -, h⟩ := Option.bind_eq_some_iff.1 h
      split at h
      · split at h
        · next hle =>
            cases h
            rintro limit ⟨⟩
            exact hle
        · cases h
      · cases h
  · cases h

theorem wellFormed_of_readClass? {verbose : Bool} {fuel : Nat} {cls : OpenClass}
    {outer : List OpenClass} {text rest : List Char} {tree : Tree}
    (h : readClass? verbose fuel cls outer text = some (tree, rest)) : tree.WellFormed := by
  induction fuel generalizing cls outer text with
  | zero => cases h
  | succ fuel ih =>
      rw [readClass?] at h
      split at h
      · cases h
      · split at h
        · exact ih h
        · obtain ⟨⟨inner, behind⟩, -, h⟩ := Option.bind_eq_some_iff.1 h
          exact ih h
      · split at h
        · cases h
          exact trivial
        · exact ih h
      · exact ih h
      · exact ih h
      · exact ih h
      · obtain ⟨⟨item, behind⟩, -, h⟩ := Option.bind_eq_some_iff.1 h
        exact ih h

theorem Sign.wellFormed_toTree (sign : Sign) : sign.toTree.WellFormed := by
  cases sign <;> exact trivial

theorem wellFormed_of_readStep? {state next : Progress} (hstate : state.WellFormed)
    {text rest : List Char} (h : readStep? state text = some (next, rest)) :
    next.WellFormed := by
  fun_cases readStep? state text with
  | case1 => cases h
  | case2 =>
      obtain ⟨⟨head, behind⟩, -, h⟩ := Option.bind_eq_some_iff.1 h
      obtain ⟨opened, hopen, h⟩ := Option.bind_eq_some_iff.1 h
      cases h
      exact hstate.openGroup? hopen
  | case3 =>
      obtain ⟨closed, hclose, h⟩ := Option.map_eq_some_iff.1 h
      cases h
      exact hstate.closeGroup? hclose
  | case4 =>
      cases h
      exact hstate.branch
  | case5 =>
      obtain ⟨⟨cls, inside⟩, -, h⟩ := Option.bind_eq_some_iff.1 h
      obtain ⟨⟨tree, behind⟩, hclass, h⟩ := Option.bind_eq_some_iff.1 h
      cases h
      exact hstate.push (wellFormed_of_readClass? hclass)
  | case6 | case7 | case8 =>
      obtain ⟨repeated, hrepeat, h⟩ := Option.map_eq_some_iff.1 h
      cases h
      exact hstate.repeat? (by simp) hrepeat
  | case9 =>
      obtain ⟨⟨⟨least, most⟩, behind⟩, hcounts, h⟩ := Option.bind_eq_some_iff.1 h
      obtain ⟨repeated, hrepeat, h⟩ := Option.bind_eq_some_iff.1 h
      cases h
      exact hstate.repeat? (le_of_readCounts? hcounts) hrepeat
  | case10 =>
      obtain ⟨⟨sign, behind⟩, -, h⟩ := Option.bind_eq_some_iff.1 h
      cases h
      exact hstate.push sign.wellFormed_toTree
  | case11 | case12 | case13 =>
      cases h
      exact hstate.push trivial
  | case14 =>
      simp only [readStep?, *] at h
      cases h
      exact hstate.push trivial

theorem wellFormed_of_readSteps? {fuel : Nat} {state next : Progress} {text : List Char}
    (hstate : state.WellFormed) (h : readSteps? fuel state text = some next) :
    next.WellFormed := by
  induction fuel generalizing state text with
  | zero => cases h
  | succ fuel ih =>
      rw [readSteps?] at h
      split at h
      · cases h
        exact hstate
      · obtain ⟨⟨after, rest⟩, hstep, h⟩ := Option.bind_eq_some_iff.1 h
        exact ih (wellFormed_of_readStep? hstate hstep) h

theorem Tree.wellFormed_of_read? {text : List Char} {tree : Tree} (h : read? text = some tree) :
    tree.WellFormed := by
  obtain ⟨state, hread, h⟩ := Option.bind_eq_some_iff.1 h
  have hstate := wellFormed_of_readSteps? Progress.wellFormed_start hread
  dsimp only at h
  split at h
  · split at h
    · cases h
      exact hstate.content
    · cases h
  · cases h

/-! ## Meanings -/

theorem Regex.wellFormed_ofParts {parts : List Regex} (h : ∀ part ∈ parts, part.WellFormed) :
    (ofParts parts).WellFormed := by
  fun_induction ofParts parts with
  | case1 => exact trivial
  | case2 part => exact h part List.mem_cons_self
  | case3 part parts _ ih =>
      obtain ⟨hpart, hparts⟩ := List.forall_mem_cons.1 h
      exact ⟨hpart, ih hparts⟩

theorem Regex.wellFormed_ofBranches {branches : List Regex}
    (h : ∀ branch ∈ branches, branch.WellFormed) : (ofBranches branches).WellFormed := by
  fun_induction ofBranches branches with
  | case1 => exact trivial
  | case2 branch => exact h branch List.mem_cons_self
  | case3 branch branches _ ih =>
      obtain ⟨hbranch, hbranches⟩ := List.forall_mem_cons.1 h
      exact ⟨hbranch, ih hbranches⟩

namespace Tree

mutual

theorem wellFormed_of_meaning? {setting after : Setting} {regex : Regex} : (tree : Tree) →
    tree.WellFormed → tree.meaning? setting = some (regex, after) → regex.WellFormed
  | .empty, _, h | .flags _, _, h | .assertion _, _, h => by
      cases h
      exact trivial
  | .letter _, _, h => by
      rw [Tree.meaning?] at h
      split at h <;> cases h
      exact trivial
  | .dot, _, h | .short _ _, _, h | .property _ _, _, h | .bracket _ _, _, h => by
      obtain ⟨set, -, hset⟩ := Option.map_eq_some_iff.1 h
      cases hset
      exact trivial
  | .repetition body _ _, htree, h => by
      obtain ⟨⟨inner, _⟩, hbody, h⟩ := Option.bind_eq_some_iff.1 h
      cases h
      exact ⟨wellFormed_of_meaning? body htree.1 hbody, htree.2⟩
  | .capture body, htree, h => by
      obtain ⟨⟨inner, _⟩, hbody, h⟩ := Option.bind_eq_some_iff.1 h
      cases h
      have hinner : inner.WellFormed := wellFormed_of_meaning? body htree hbody
      exact hinner
  | .group _ body, htree, h => by
      obtain ⟨⟨inner, _⟩, hbody, h⟩ := Option.bind_eq_some_iff.1 h
      cases h
      exact wellFormed_of_meaning? body htree hbody
  | .concat parts, htree, h => by
      obtain ⟨⟨meant, _⟩, hparts, h⟩ := Option.bind_eq_some_iff.1 h
      cases h
      exact Regex.wellFormed_ofParts (wellFormed_of_meanings? parts htree hparts)
  | .alternation branches, htree, h => by
      obtain ⟨⟨meant, _⟩, hbranches, h⟩ := Option.bind_eq_some_iff.1 h
      cases h
      exact Regex.wellFormed_ofBranches (wellFormed_of_meanings? branches htree hbranches)

theorem wellFormed_of_meanings? {setting after : Setting} {regexes : List Regex} :
    (trees : List Tree) → AllWellFormed trees →
      Tree.meanings? setting trees = some (regexes, after) →
      ∀ regex ∈ regexes, regex.WellFormed
  | [], _, h => by
      cases h
      simp
  | tree :: rest, htrees, h => by
      obtain ⟨⟨first, _⟩, hfirst, h⟩ := Option.bind_eq_some_iff.1 h
      obtain ⟨⟨others, _⟩, hothers, h⟩ := Option.bind_eq_some_iff.1 h
      cases h
      have htree := wellFormed_of_meaning? tree htrees.1 hfirst
      exact List.forall_mem_cons.2 ⟨htree, wellFormed_of_meanings? rest htrees.2 hothers⟩

end

end Tree

/-! ## Patterns -/

theorem wellFormed_of_compile? {pattern : String} {regex : Regex}
    (h : compile? pattern = some regex) : regex.WellFormed := by
  obtain ⟨tree, hread, h⟩ := Option.bind_eq_some_iff.1 h
  obtain ⟨⟨_, after⟩, hmeaning, h⟩ := Option.bind_eq_some_iff.1 h
  cases h
  exact tree.wellFormed_of_meaning? (Tree.wellFormed_of_read? hread) hmeaning

/-- A pattern that means an expression is searched for without an error, and is found where
the expression accepts a stretch of the text. -/
theorem exists_search_of_compile? {pattern : String} {regex : Regex}
    (h : compile? pattern = some regex) (text : String) :
    ∃ found, search pattern text = .ok found ∧
      (found = true ↔ regex.FoundIn text.toList) := by
  exact ⟨regex.search text.toList, search_eq_of_compile? h text,
    Regex.search_eq_true_iff (wellFormed_of_compile? h) text.toList⟩

end CellGrading.Pattern
