import CellGrading.Proofs.Symbol.Reference
import Mathlib.Algebra.Order.BigOperators.Group.List

/-!
# The meaning of substitution

A text falls in one way only into its references and the texts between them.
Substitution writes the same layout again with something else in place of each
reference, so what stands between the references is kept, and what is put in is
not searched.  As a text falls apart wherever no word goes on, substitution goes
part by part.
-/

namespace CellGrading

open Text

/-! ## Layouts -/

def Unreferenced (text : List Char) : Prop :=
  ∀ c, c.isAlpha = true → ¬ ['$', c] <:+: text

/-- The name of a reference, and the text behind it up to the next reference. -/
@[ext] structure Segment where
  name : List Char
  behind : List Char
  isName : IsName name
  stops : StopsAt isWord behind
  unreferenced : Unreferenced behind

@[ext] structure Layout where
  front : List Char
  segments : List Segment
  unreferenced : Unreferenced front

namespace Layout

def write (layout : Layout) (put : List Char → List Char) : List Char :=
  layout.front ++ layout.segments.flatMap fun segment => put segment.name ++ segment.behind

def text (layout : Layout) : List Char := layout.write fun name => '$' :: name

end Layout

/-! ## Texts without references -/

@[simp] theorem unreferenced_nil : Unreferenced [] := by
  simp [Unreferenced]

theorem unreferenced_cons_iff (c : Char) (rest : List Char) :
    Unreferenced (c :: rest) ↔
      (c = '$' → StopsAt Char.isAlpha rest) ∧ Unreferenced rest := by
  simp only [Unreferenced, List.infix_cons_iff, List.cons_prefix_cons, not_or]
  constructor
  · intro h
    refine ⟨?_, fun d hd => (h d hd).2⟩
    rintro rfl d hd
    cases halpha : d.isAlpha with
    | false => rfl
    | true =>
        refine absurd ⟨rfl, ?_⟩ (h d halpha).1
        cases rest with
        | nil => simp at hd
        | cons first rest =>
            cases hd
            simp
  · rintro ⟨hhead, hrest⟩ d hd
    refine ⟨?_, hrest d hd⟩
    rintro ⟨rfl, hprefix⟩
    cases rest with
    | nil => simp at hprefix
    | cons first rest =>
        have hfirst : d = first := by simpa using hprefix
        subst hfirst
        have hstop := hhead rfl
        simp [hd] at hstop

theorem split_of_unreferenced {text : List Char} (h : Unreferenced text) :
    Piece.split text = text.map .char := by
  fun_induction Piece.split text with
  | case1 => rfl
  | case2 c => rfl
  | case3 c first rest hreference ih =>
      have hstop := ((unreferenced_cons_iff _ _).1 h).1 hreference.1
      simp [hreference.2] at hstop
  | case4 c first rest hchar ih =>
      have hrest := ((unreferenced_cons_iff _ _).1 h).2
      simp [ih hrest]

/-! ## The pieces of a layout -/

def Segment.pieces (segment : Segment) : List Piece :=
  .reference segment.name :: segment.behind.map .char

namespace Layout

def pieces (layout : Layout) : List Piece :=
  layout.front.map .char ++ layout.segments.flatMap Segment.pieces

theorem stopsAt_segments (segments : List Segment) :
    StopsAt isWord (segments.flatMap fun segment => '$' :: segment.name ++ segment.behind) := by
  cases segments with
  | nil => simp
  | cons segment segments => simp

theorem split_segments (segments : List Segment) :
    Piece.split (segments.flatMap fun segment => '$' :: segment.name ++ segment.behind) =
      segments.flatMap Segment.pieces := by
  induction segments with
  | nil => simp [Piece.split]
  | cons segment segments ih =>
      have hrest := stopsAt_segments segments
      rw [List.flatMap_cons, List.cons_append, List.cons_append, List.append_assoc,
        Piece.split_reference_append segment.isName (segment.stops.append hrest),
        Piece.split_append _ hrest, split_of_unreferenced segment.unreferenced, ih]
      simp [Segment.pieces]

theorem split_text (layout : Layout) : Piece.split layout.text = layout.pieces := by
  rw [text, write, Piece.split_append _ (stopsAt_segments layout.segments),
    split_of_unreferenced layout.unreferenced, split_segments, pieces]

theorem flatMap_pieces {put : Piece → List Char} (hchar : ∀ c, put (.char c) = [c])
    (layout : Layout) :
    layout.pieces.flatMap put = layout.write fun name => put (.reference name) := by
  have hchars (chars : List Char) : (chars.map Piece.char).flatMap put = chars := by
    induction chars with
    | nil => rfl
    | cons c rest ih => rw [List.map_cons, List.flatMap_cons, hchar, ih, List.singleton_append]
  rw [pieces, write, List.flatMap_append, hchars, List.flatMap_assoc]
  congr 2
  funext segment
  rw [Segment.pieces, List.flatMap_cons, hchars]

/-! ## One layout for each text -/

theorem stopsAt_front {sort : Char → Bool} {layout : Layout}
    (h : StopsAt sort layout.text) : StopsAt sort layout.front := by
  intro c hc
  refine h c ?_
  obtain ⟨front, segments, _⟩ := layout
  cases front with
  | nil => cases hc
  | cons d rest => exact hc

theorem exists_text_eq (text : List Char) : ∃ layout : Layout, layout.text = text := by
  fun_induction Piece.split text with
  | case1 => exact ⟨⟨[], [], unreferenced_nil⟩, rfl⟩
  | case2 c => exact ⟨⟨[c], [], (unreferenced_cons_iff c []).2 (by simp)⟩, rfl⟩
  | case3 c first rest hreference ih =>
      obtain ⟨rfl, hfirst⟩ := hreference
      obtain ⟨layout, hlayout⟩ := ih
      have hname : IsName (first :: rest.takeWhile isWord) :=
        ⟨first, _, rfl, hfirst, fun c hc => List.mem_takeWhile_imp hc⟩
      have hstop : StopsAt isWord layout.front :=
        stopsAt_front (hlayout ▸ stopsAt_dropWhile isWord rest)
      refine ⟨⟨[], ⟨_, layout.front, hname, hstop, layout.unreferenced⟩ :: layout.segments,
        unreferenced_nil⟩, ?_⟩
      have hrest : layout.front ++ layout.segments.flatMap
          (fun segment => '$' :: segment.name ++ segment.behind) = rest.dropWhile isWord := hlayout
      simp only [text, write, List.nil_append, List.flatMap_cons, List.cons_append,
        List.append_assoc] at hrest ⊢
      rw [hrest, List.takeWhile_append_dropWhile]
  | case4 c first rest hchar ih =>
      obtain ⟨layout, hlayout⟩ := ih
      have hfront : Unreferenced (c :: layout.front) := by
        refine (unreferenced_cons_iff _ _).2 ⟨?_, layout.unreferenced⟩
        rintro rfl
        refine stopsAt_front (hlayout ▸ ?_)
        simpa using hchar
      refine ⟨⟨c :: layout.front, layout.segments, hfront⟩, ?_⟩
      rw [← hlayout]
      rfl

theorem char_cons_ne_pieces {c : Char} {rest : List Piece} {segments : List Segment} :
    .char c :: rest ≠ segments.flatMap Segment.pieces := by
  cases segments with
  | nil => simp
  | cons segment segments => simp [Segment.pieces]

theorem chars_unique {chars chars' : List Char} {segments segments' : List Segment}
    (h : chars.map .char ++ segments.flatMap Segment.pieces =
      chars'.map .char ++ segments'.flatMap Segment.pieces) :
    chars = chars' ∧ segments.flatMap Segment.pieces = segments'.flatMap Segment.pieces := by
  induction chars generalizing chars' with
  | nil =>
      cases chars' with
      | nil => exact ⟨rfl, h⟩
      | cons c rest => exact absurd h.symm char_cons_ne_pieces
  | cons c rest ih =>
      cases chars' with
      | nil => exact absurd h char_cons_ne_pieces
      | cons c' rest' =>
          simp only [List.map_cons, List.cons_append, List.cons.injEq, Piece.char.injEq] at h
          obtain ⟨rfl, hrest⟩ := h
          obtain ⟨rfl, hsegments⟩ := ih hrest
          exact ⟨rfl, hsegments⟩

theorem segments_unique {segments segments' : List Segment}
    (h : segments.flatMap Segment.pieces = segments'.flatMap Segment.pieces) :
    segments = segments' := by
  induction segments generalizing segments' with
  | nil =>
      cases segments' with
      | nil => rfl
      | cons segment' rest' => simp [Segment.pieces] at h
  | cons segment rest ih =>
      cases segments' with
      | nil => simp [Segment.pieces] at h
      | cons segment' rest' =>
          simp only [List.flatMap_cons, Segment.pieces, List.cons_append, List.cons.injEq,
            Piece.reference.injEq] at h
          obtain ⟨hbehind, hrest⟩ := chars_unique h.2
          rw [Segment.ext h.1 hbehind, ih hrest]

theorem text_injective {first second : Layout} (h : first.text = second.text) :
    first = second := by
  have hpieces : first.pieces = second.pieces := by rw [← split_text, h, split_text]
  obtain ⟨hfront, hsegments⟩ := chars_unique hpieces
  exact Layout.ext hfront (segments_unique hsegments)

end Layout

/-! ## Values in their places -/

namespace Lookup

def compared (lookup : Lookup) (name : List Char) : List Char :=
  match lookup (.ofList name) with
  | some value => value.toList
  | none => '$' :: name

def displayed (lookup : Lookup) (name : List Char) : List Char :=
  match lookup (.ofList name) with
  | some value => '$' :: name ++ "->[".toList ++ value.toList ++ "]".toList
  | none => '$' :: name

variable (lookup : Lookup) (name : List Char)

theorem length_compared_le : (lookup.compared name).length ≤ (lookup.displayed name).length := by
  unfold compared displayed
  split
  · simp
    omega
  · exact le_rfl

theorem length_compared_lt (h : lookup (.ofList name) ≠ none) :
    (lookup.compared name).length < (lookup.displayed name).length := by
  unfold compared displayed
  split
  · simp
    omega
  · next hnone => exact absurd hnone h

end Lookup

namespace Layout

theorem write_congr {layout : Layout} {put put' : List Char → List Char}
    (h : ∀ segment ∈ layout.segments, put segment.name = put' segment.name) :
    layout.write put = layout.write put' := by
  have hsegments := List.flatMap_congr fun segment hmem =>
    congrArg (· ++ segment.behind) (h segment hmem)
  rw [write, hsegments, write]

theorem length_write (layout : Layout) (put : List Char → List Char) :
    (layout.write put).length = layout.front.length +
      (layout.segments.map fun segment =>
        (put segment.name).length + segment.behind.length).sum := by
  simp [write, List.length_flatMap]

variable {layout : Layout} {text : String} (h : layout.text = text.toList) (lookup : Lookup)
include h

theorem toList_compare :
    (substitute text lookup).compare.toList = layout.write lookup.compared := by
  rw [substitute, String.toList_ofList, ← h, split_text, flatMap_pieces fun _ => rfl]
  rfl

theorem toList_display :
    (substitute text lookup).display.toList = layout.write lookup.displayed := by
  rw [substitute, String.toList_ofList, ← h, split_text, flatMap_pieces fun _ => rfl]
  rfl

theorem eq_text_of_unbound (hnone : ∀ segment ∈ layout.segments,
    lookup (.ofList segment.name) = none) :
    (substitute text lookup).compare = text ∧ (substitute text lookup).display = text := by
  rw [← String.toList_inj, ← String.toList_inj, toList_compare h, toList_display h, ← h]
  constructor
  · exact write_congr fun segment hmem => by simp only [Lookup.compared, hnone segment hmem]
  · exact write_congr fun segment hmem => by simp only [Lookup.displayed, hnone segment hmem]

theorem length_compare_lt {segment : Segment} (hmem : segment ∈ layout.segments)
    (hbound : lookup (.ofList segment.name) ≠ none) :
    (substitute text lookup).compare.length < (substitute text lookup).display.length := by
  rw [← String.length_toList, ← String.length_toList, toList_compare h, toList_display h,
    length_write, length_write]
  refine Nat.add_lt_add_left (List.sum_lt_sum _ _ ?_ ⟨segment, hmem, ?_⟩) _
  · intro other _
    exact Nat.add_le_add_right (lookup.length_compared_le other.name) _
  · exact Nat.add_lt_add_right (lookup.length_compared_lt segment.name hbound) _

end Layout

/-- A text has one layout, and substitution writes it again: what stands between the
references is kept, each bound reference gives way to its value, and the others stay.  The
text is unchanged when no name in it is bound; else what is displayed is the longer one. -/
theorem substitute_layout (text : String) (lookup : Lookup) :
    ∃ layout : Layout, (∀ other : Layout, other.text = text.toList ↔ other = layout) ∧
      (substitute text lookup).compare.toList = layout.write lookup.compared ∧
      (substitute text lookup).display.toList = layout.write lookup.displayed ∧
      ((substitute text lookup).compare = text ∧ (substitute text lookup).display = text ↔
        ∀ segment ∈ layout.segments, lookup (.ofList segment.name) = none) ∧
      ((substitute text lookup).compare.length < (substitute text lookup).display.length ↔
        ∃ segment ∈ layout.segments, lookup (.ofList segment.name) ≠ none) := by
  obtain ⟨layout, hlayout⟩ := Layout.exists_text_eq text.toList
  have hlonger : ∀ segment ∈ layout.segments, lookup (.ofList segment.name) ≠ none →
      (substitute text lookup).compare.length < (substitute text lookup).display.length :=
    fun segment hmem hbound => Layout.length_compare_lt hlayout lookup hmem hbound
  refine ⟨layout, ?_, Layout.toList_compare hlayout lookup, Layout.toList_display hlayout lookup,
    ⟨?_, Layout.eq_text_of_unbound hlayout lookup⟩, ⟨?_, ?_⟩⟩
  · intro other
    constructor
    · intro hother
      exact Layout.text_injective (hother.trans hlayout.symm)
    · rintro rfl
      exact hlayout
  · rintro ⟨hcompare, hdisplay⟩ segment hmem
    by_contra hbound
    have hlt := hlonger segment hmem hbound
    rw [hcompare, hdisplay] at hlt
    exact Nat.lt_irrefl _ hlt
  · intro hlt
    by_contra hnone
    obtain ⟨hcompare, hdisplay⟩ := Layout.eq_text_of_unbound hlayout lookup
      fun segment hmem => by_contra fun hbound => hnone ⟨segment, hmem, hbound⟩
    rw [hcompare, hdisplay] at hlt
    exact Nat.lt_irrefl _ hlt
  · rintro ⟨segment, hmem, hbound⟩
    exact hlonger segment hmem hbound

example : substitute "$$A$B-$9 $C" (SymbolTable.ofList [("A", "$C"), ("B", "b")]).get? =
    ⟨"$$Cb-$9 $C", "$$A->[$C]$B->[b]-$9 $C"⟩ := by decide +kernel

/-! ## Substitution part by part -/

/-- A text may be cut wherever no word goes on: no reference is moved, split or lost. -/
theorem substitute_append (first : String) {second : String}
    (h : StopsAt isWord second.toList) (lookup : Lookup) :
    (substitute (first ++ second) lookup).compare =
        (substitute first lookup).compare ++ (substitute second lookup).compare ∧
      (substitute (first ++ second) lookup).display =
        (substitute first lookup).display ++ (substitute second lookup).display := by
  have hsplit := Piece.split_append first.toList h
  constructor <;>
    simp only [substitute, String.toList_append, hsplit, List.flatMap_append, String.ofList_append]

theorem substitute_append_dollars :
    StopsAt isWord "$B$A".toList ∧
      (substitute ("$A$" ++ "$B$A") (SymbolTable.ofList [("A", "$B"), ("B", "x")]).get?).compare =
        "$B$" ++ "x$B" ∧
      (substitute ("$A$" ++ "$B$A") (SymbolTable.ofList [("A", "$B"), ("B", "x")]).get?).display =
        "$A->[$B]$" ++ "$B->[x]$A->[$B]" := by
  have hstop : StopsAt isWord "$B$A".toList := by decide
  obtain ⟨hcompare, hdisplay⟩ :=
    substitute_append "$A$" hstop (SymbolTable.ofList [("A", "$B"), ("B", "x")]).get?
  refine ⟨hstop, hcompare.trans ?_, hdisplay.trans ?_⟩
  · decide +kernel
  · decide +kernel

end CellGrading
