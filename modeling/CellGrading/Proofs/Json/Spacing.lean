import CellGrading.Proofs.Json.Grammar

/-!
# Blanks between tokens

The text of a document is a row of tokens.  Texts with the same tokens, and any blanks
around them, are texts of the same documents.
-/

namespace CellGrading.Json

open Text

/-! ## Tokens -/

def marks : List Char := ['[', ']', '{', '}', ',', ':']

def Document.IsScalar : Document → Prop
  | .array .. => False
  | .object .. => False
  | _ => True

/-- The first token of a text, and what is behind it.  A mark stands for itself; a
string, a number or a name ends where it cannot go on. -/
inductive Token : List Char → List Char → Prop
  | mark {c : Char} {rest : List Char} (hc : c ∈ marks) : Token [c] rest
  | scalar {document : Document} {text rest : List Char} (hscalar : document.IsScalar)
      (h : Spells document text) (hrest : StopsAt isNumberPart rest) : Token text rest

/-- The texts have the same tokens, each with blanks of its own around them. -/
inductive Respaced : List Char → List Char → Prop
  | nil {gap gap' : List Char} (hgap : Gap gap) (hgap' : Gap gap') : Respaced gap gap'
  | cons {gap gap' token rest rest' : List Char} (hgap : Gap gap) (hgap' : Gap gap')
      (htoken : Token token rest) (htoken' : Token token rest') (hrest : Respaced rest rest') :
      Respaced (gap ++ (token ++ rest)) (gap' ++ (token ++ rest'))

/-! ## Cutting off a token -/

theorem isJsonBlank_of_mem_marks : ∀ c ∈ marks, isJsonBlank c = false := by
  simp [marks, isJsonBlank]

theorem isNumberPart_of_mem_marks : ∀ c ∈ marks, isNumberPart c = false := by
  simp [marks, isNumberPart, Char.isDigit]

theorem stopsAt_number_gap_mark {gap : List Char} (hgap : Gap gap) {c : Char} (hc : c ∈ marks)
    (rest : List Char) : StopsAt isNumberPart (gap ++ c :: rest) :=
  stopsAt_number_gap hgap (by simpa using isNumberPart_of_mem_marks c hc)

theorem not_mem_marks_of_isDigit {c : Char} (hc : c.isDigit = true) : c ∉ marks := by
  intro hmark
  simpa [isNumberPart, hc] using isNumberPart_of_mem_marks c hmark

theorem Spells.exists_head {document : Document} {text : List Char} (h : Spells document text)
    (hscalar : document.IsScalar) : ∃ c rest, text = c :: rest ∧ c ∉ marks := by
  cases h with
  | number h =>
      obtain ⟨c, rest, htext, rfl | hc⟩ := h.exists_head
      · exact ⟨_, rest, htext, by decide⟩
      · exact ⟨c, rest, htext, not_mem_marks_of_isDigit hc⟩
  | emptyArray => exact hscalar.elim
  | array => exact hscalar.elim
  | emptyObject => exact hscalar.elim
  | object => exact hscalar.elim
  | _ => exact ⟨_, _, rfl, by decide⟩

theorem Spells.rest_unique {document document' : Document} {text text' rest rest' : List Char}
    (h : Spells document text) (hrest : StopsAt isNumberPart rest)
    (h' : Spells document' text') (hrest' : StopsAt isNumberPart rest')
    (heq : text ++ rest = text' ++ rest') : rest = rest' := by
  have hreads := reads (2 * text.length + 2 * text'.length)
  have hread := hreads.value h gap_nil hrest (by omega)
  rw [heq, hreads.value h' gap_nil hrest' (by omega)] at hread
  exact (Prod.mk.inj hread).2.symm

namespace Token

variable {token token' rest rest' : List Char}

theorem exists_head (h : Token token rest) :
    ∃ c others, token = c :: others ∧ isJsonBlank c = false := by
  cases h with
  | mark hc => exact ⟨_, _, rfl, isJsonBlank_of_mem_marks _ hc⟩
  | scalar _ h =>
      obtain ⟨c, others, htoken, hc⟩ := h.opens
      simp only [isDelimiter, Bool.or_eq_false_iff] at hc
      exact ⟨c, others, htoken, hc.1.1⟩

theorem unique (h : Token token rest) (h' : Token token' rest')
    (heq : token ++ rest = token' ++ rest') : token = token' ∧ rest = rest' := by
  cases h with
  | mark hc =>
      cases h' with
      | mark => simpa using heq
      | scalar hscalar h' =>
          obtain ⟨d, others, rfl, hd⟩ := h'.exists_head hscalar
          exact absurd ((List.cons.inj heq).1 ▸ hc) hd
  | scalar hscalar h hrest =>
      cases h' with
      | mark hc =>
          obtain ⟨d, others, rfl, hd⟩ := h.exists_head hscalar
          exact absurd ((List.cons.inj heq).1 ▸ hc) hd
      | scalar _ h' hrest' =>
          obtain rfl := h.rest_unique hrest h' hrest' heq
          exact ⟨List.append_cancel_right heq, rfl⟩

end Token

namespace Respaced

variable {gap gap' token text rest text' : List Char}

theorem gap_of_gap (h : Respaced gap gap') (hgap : Gap gap) : Gap gap' := by
  cases h with
  | nil _ hgap' => exact hgap'
  | cons _ _ htoken =>
      obtain ⟨c, others, rfl, hc⟩ := htoken.exists_head
      cases hc.symm.trans (hgap c (by simp))

theorem uncons (h : Respaced text text') (htext : text = gap ++ (token ++ rest))
    (hgap : Gap gap) (htoken : Token token rest) :
    ∃ gap' rest', text' = gap' ++ (token ++ rest') ∧ Gap gap' ∧ Token token rest' ∧
      Respaced rest rest' := by
  obtain ⟨c, others, hhead, hc⟩ := htoken.exists_head
  cases h with
  | nil hblank =>
      have hmem : c ∈ text := by simp [htext, hhead]
      cases hc.symm.trans (hblank c hmem)
  | @cons gap₀ gap' token₀ rest₀ rest' hgap₀ hgap' htoken₀ htoken' hrest =>
      have hstop₀ : StopsAt isJsonBlank (token₀ ++ rest₀) := by
        obtain ⟨d, others₀, rfl, hd⟩ := htoken₀.exists_head
        simpa using hd
      have hstop : StopsAt isJsonBlank (token ++ rest) := by simpa [hhead] using hc
      obtain ⟨-, hbehind⟩ := run_unique hgap₀ hstop₀ hgap hstop htext
      obtain ⟨rfl, rfl⟩ := htoken₀.unique htoken hbehind
      exact ⟨gap', rest', rfl, hgap', htoken', hrest⟩

theorem mark {c : Char} (h : Respaced (gap ++ c :: rest) text') (hgap : Gap gap)
    (hc : c ∈ marks) :
    ∃ gap' rest', text' = gap' ++ c :: rest' ∧ Gap gap' ∧ Respaced rest rest' := by
  have htoken : Token [c] rest := .mark hc
  obtain ⟨gap', rest', htext', hgap', -, hrest⟩ := h.uncons (by rfl) hgap htoken
  exact ⟨gap', rest', htext', hgap', hrest⟩

end Respaced

/-! ## From the inside of documents -/

inductive Bracketed {α : Type} (first last : Char) (spells : α → List Char → Prop) :
    List α → List Char → Prop
  | empty {gap : List Char} (hgap : Gap gap) :
      Bracketed first last spells [] (first :: (gap ++ [last]))
  | list {items : List α} {gap text : List Char} (hgap : Gap gap)
      (h : Separated spells items text) :
      Bracketed first last spells items (first :: (gap ++ (text ++ [last])))

theorem spells_array_eq (items : List Document) :
    Spells (.array items none) = Bracketed '[' ']' Spells items := by
  funext text
  refine propext ⟨fun h => ?_, fun h => ?_⟩
  · cases h with
    | emptyArray hgap => exact .empty hgap
    | array hgap h => exact .list hgap h
  · cases h with
    | empty hgap => exact .emptyArray hgap
    | list hgap h => exact .array hgap h

theorem spells_object_eq (members : List (Document × Document)) :
    Spells (.object members none) = Bracketed '{' '}' SpellsMember members := by
  funext text
  refine propext ⟨fun h => ?_, fun h => ?_⟩
  · cases h with
    | emptyObject hgap => exact .empty hgap
    | object hgap h => exact .list hgap h
  · cases h with
    | empty hgap => exact .emptyObject hgap
    | list hgap h => exact .object hgap h

/-- The property goes over from the texts of what is in a document to the texts of the
document itself. -/
structure Hereditary (Holds : (List Char → Prop) → Prop) : Prop where
  vacuous {spells : List Char → Prop} (h : ∀ text, ¬ spells text) : Holds spells
  scalar {document : Document} (h : document.IsScalar) : Holds (Spells document)
  bracketed {α : Type} {first last : Char} {spells : α → List Char → Prop} {items : List α}
    (hfirst : first ∈ marks) (hlast : last ∈ marks) (h : ∀ item ∈ items, Holds (spells item)) :
    Holds (Bracketed first last spells items)
  member {key value : Document} (h : Holds (Spells value)) : Holds (SpellsMember (key, value))

namespace Hereditary

variable {Holds : (List Char → Prop) → Prop}

mutual

theorem document (h : Hereditary Holds) : (document : Document) → Holds (Spells document)
  | .array items none => by
      rw [spells_array_eq]
      exact h.bracketed (by decide) (by decide) (h.items items)
  | .object members none => by
      rw [spells_object_eq]
      exact h.bracketed (by decide) (by decide) (h.members members)
  | .array _ (some _) => h.vacuous fun _ hspells => by cases hspells
  | .object _ (some _) => h.vacuous fun _ hspells => by cases hspells
  | .null => h.scalar trivial
  | .bool _ => h.scalar trivial
  | .number _ => h.scalar trivial
  | .string _ => h.scalar trivial
  | .cutName => h.vacuous fun _ hspells => by cases hspells
  | .cutNumber => h.vacuous fun _ hspells => by cases hspells
  | .broken _ => h.vacuous fun _ hspells => by cases hspells

theorem items (h : Hereditary Holds) : (items : List Document) →
    ∀ item ∈ items, Holds (Spells item)
  | [] => by simp
  | item :: rest => List.forall_mem_cons.2 ⟨h.document item, h.items rest⟩

theorem members (h : Hereditary Holds) : (members : List (Document × Document)) →
    ∀ member ∈ members, Holds (SpellsMember member)
  | [] => by simp
  | (_, value) :: rest => List.forall_mem_cons.2 ⟨h.member (h.document value), h.members rest⟩

end

end Hereditary

/-! ## Other blanks -/

/-- Whatever blanks stand between its tokens, a text of this kind remains one. -/
def Respaceable (spells : List Char → Prop) : Prop :=
  ∀ ⦃gap text rest text' : List Char⦄, Gap gap → spells text → StopsAt isNumberPart rest →
    Respaced (gap ++ (text ++ rest)) text' →
    ∃ gap' inside rest', text' = gap' ++ (inside ++ rest') ∧ Gap gap' ∧ spells inside ∧
      Respaced rest rest'

theorem respaceable_scalar {document : Document} (hscalar : document.IsScalar) :
    Respaceable (Spells document) := by
  intro gap text rest text' hgap h hrest hrespaced
  obtain ⟨gap', rest', htext', hgap', -, hrest'⟩ :=
    hrespaced.uncons rfl hgap (.scalar hscalar h hrest)
  exact ⟨gap', text, rest', htext', hgap', h, hrest'⟩

theorem respaceable_member {key value : Document} (hvalue : Respaceable (Spells value)) :
    Respaceable (SpellsMember (key, value)) := by
  intro gap text rest text' hgap h hrest hrespaced
  cases h with
  | @intro units name before after inside _ hname hbefore hafter hinside =>
      have hstop := stopsAt_number_gap_mark hbefore (c := ':') (by decide)
        (after ++ (inside ++ rest))
      have hkey : Spells (.string ⟨units, none⟩) ('"' :: (name ++ ['"'])) := .string hname
      have hscalar : Document.IsScalar (.string ⟨units, none⟩) := trivial
      obtain ⟨gap', behind, rfl, hgap', -, hbehind⟩ :=
        hrespaced.uncons (by simp) hgap (.scalar hscalar hkey hstop)
      obtain ⟨before', others, rfl, hbefore', hothers⟩ := hbehind.mark hbefore (by decide)
      obtain ⟨after', inside', rest', rfl, hafter', hinside', hrest'⟩ :=
        hvalue hafter hinside hrest hothers
      refine ⟨gap', _, rest', ?_, hgap', .intro hname hbefore' hafter' hinside', hrest'⟩
      simp

section

variable {α : Type} {spells : α → List Char → Prop} {items : List α} {text : List Char}

theorem respaced_separated (hitems : ∀ item ∈ items, Respaceable (spells item))
    (h : Separated spells items text) {c : Char} (hc : c ∈ marks)
    {gap rest text' : List Char} (hgap : Gap gap)
    (hrespaced : Respaced (gap ++ (text ++ c :: rest)) text') :
    ∃ gap' inside rest', text' = gap' ++ (inside ++ c :: rest') ∧ Gap gap' ∧
      Separated spells items inside ∧ Respaced rest rest' := by
  -- On the list, for any blanks in front: those behind a comma belong to what comes next.
  induction h generalizing gap text' with
  | @one item text after hitem hafter =>
      have hstop := stopsAt_number_gap_mark hafter hc rest
      obtain ⟨gap', inside, behind, rfl, hgap', hinside, hbehind⟩ :=
        hitems item (by simp) hgap hitem hstop (by simpa using hrespaced)
      obtain ⟨after', rest', rfl, hafter', hrest'⟩ := hbehind.mark hafter hc
      exact ⟨gap', _, rest', by simp, hgap', .one hinside hafter', hrest'⟩
  | @more item items text before after others hitem hbefore hafter _ ih =>
      have hstop := stopsAt_number_gap_mark hbefore (c := ',') (by decide)
        (after ++ (others ++ c :: rest))
      obtain ⟨gap', inside, behind, rfl, hgap', hinside, hbehind⟩ :=
        hitems item (by simp) hgap hitem hstop (by simpa using hrespaced)
      obtain ⟨before', behind', rfl, hbefore', hbehind'⟩ := hbehind.mark hbefore (by decide)
      obtain ⟨after', others', rest', rfl, hafter', hothers', hrest'⟩ :=
        ih (fun other hother => hitems other (List.mem_cons_of_mem _ hother)) hafter hbehind'
      refine ⟨gap', _, rest', ?_, hgap', .more hinside hbefore' hafter' hothers', hrest'⟩
      simp

theorem respaceable_bracketed {first last : Char} (hfirst : first ∈ marks) (hlast : last ∈ marks)
    (hitems : ∀ item ∈ items, Respaceable (spells item)) :
    Respaceable (Bracketed first last spells items) := by
  intro gap text rest text' hgap h hrest hrespaced
  cases h with
  | empty hinside =>
      obtain ⟨gap', behind, rfl, hgap', hbehind⟩ := hrespaced.mark hgap hfirst
      obtain ⟨inside', rest', rfl, hinside', hrest'⟩ :=
        Respaced.mark (by simpa using hbehind) hinside hlast
      exact ⟨gap', _, rest', by simp, hgap', .empty hinside', hrest'⟩
  | list hbefore h =>
      obtain ⟨gap', behind, rfl, hgap', hbehind⟩ := hrespaced.mark hgap hfirst
      obtain ⟨before', inside, rest', rfl, hbefore', hinside, hrest'⟩ :=
        respaced_separated hitems h hlast hbefore (by simpa using hbehind)
      exact ⟨gap', _, rest', by simp, hgap', .list hbefore' hinside, hrest'⟩

end

theorem respaceable : Hereditary Respaceable where
  vacuous hnone := fun _ _ _ _ _ h => absurd h (hnone _)
  scalar := respaceable_scalar
  bracketed := respaceable_bracketed
  member := respaceable_member

theorem Document.WrittenAs.respaced {document : Document} {text text' : List Char}
    (h : document.WrittenAs text) (hrespaced : Respaced text text') :
    document.WrittenAs text' := by
  obtain ⟨before, inside, after, rfl, hbefore, hinside, hafter⟩ := h
  have hstop : StopsAt isNumberPart after := by
    simpa using stopsAt_number_gap hafter (stopsAt_nil _)
  obtain ⟨before', inside', after', rfl, hbefore', hinside', hafter'⟩ :=
    respaceable.document document hbefore hinside hstop hrespaced
  exact ⟨before', inside', after', rfl, hbefore', hinside', hafter'.gap_of_gap hafter⟩

/-! ## Rows of tokens -/

def Tokenized (spells : List Char → Prop) : Prop :=
  ∀ ⦃text rest rest' : List Char⦄, spells text → StopsAt isNumberPart rest →
    StopsAt isNumberPart rest' → Respaced rest rest' → Respaced (text ++ rest) (text ++ rest')

namespace Respaced

variable {text text' rest rest' gap gap' : List Char}

theorem gap_append (h : Respaced text text') (hgap : Gap gap) (hgap' : Gap gap') :
    Respaced (gap ++ text) (gap' ++ text') := by
  cases h with
  | nil h h' => exact .nil (hgap.append h) (hgap'.append h')
  | cons h h' htoken htoken' hrest =>
      rw [← List.append_assoc, ← List.append_assoc gap']
      exact .cons (hgap.append h) (hgap'.append h') htoken htoken' hrest

theorem mark_cons {c : Char} (hc : c ∈ marks) (h : Respaced rest rest') :
    Respaced (c :: rest) (c :: rest') :=
  .cons gap_nil gap_nil (.mark hc) (.mark hc) h

theorem of_mark_cons {c : Char} (hc : c ∈ marks) (h : Respaced (c :: rest) (c :: rest')) :
    Respaced rest rest' := by
  obtain ⟨gap, behind, htext, hgap, hbehind⟩ := Respaced.mark (by simpa using h) gap_nil hc
  cases gap with
  | nil =>
      cases htext
      exact hbehind
  | cons d gap =>
      obtain ⟨rfl, -⟩ := List.cons.inj htext
      cases (isJsonBlank_of_mem_marks c hc).symm.trans (hgap c (by simp))

end Respaced

theorem tokenized_scalar {document : Document} (hscalar : document.IsScalar) :
    Tokenized (Spells document) :=
  fun _ _ _ h hrest hrest' hrespaced =>
    .cons gap_nil gap_nil (.scalar hscalar h hrest) (.scalar hscalar h hrest') hrespaced

theorem tokenized_member {key value : Document} (hvalue : Tokenized (Spells value)) :
    Tokenized (SpellsMember (key, value)) := by
  intro text rest rest' h hrest hrest' hrespaced
  cases h with
  | @intro units name before after inside _ hname hbefore hafter hinside =>
      have hkey : Spells (.string ⟨units, none⟩) ('"' :: (name ++ ['"'])) := .string hname
      have hscalar : Document.IsScalar (.string ⟨units, none⟩) := trivial
      have hbehind := (hvalue hinside hrest hrest' hrespaced).gap_append hafter hafter
      have hcolon := (hbehind.mark_cons (c := ':') (by decide)).gap_append hbefore hbefore
      have hmember := tokenized_scalar hscalar hkey
        (stopsAt_number_gap_mark hbefore (by decide) _)
        (stopsAt_number_gap_mark hbefore (by decide) _) hcolon
      simpa using hmember

theorem tokenized_separated {α : Type} {spells : α → List Char → Prop} {items : List α}
    {text : List Char} (hitems : ∀ item ∈ items, Tokenized (spells item))
    (h : Separated spells items text) {c : Char} (hc : c ∈ marks)
    {rest rest' : List Char} (hrespaced : Respaced rest rest') :
    Respaced (text ++ c :: rest) (text ++ c :: rest') := by
  induction h with
  | @one item text gap hitem hgap =>
      have hbehind := (hrespaced.mark_cons hc).gap_append hgap hgap
      simpa using hitems item (by simp) hitem (stopsAt_number_gap_mark hgap hc _)
        (stopsAt_number_gap_mark hgap hc _) hbehind
  | @more item items text gap gap' others hitem hgap hgap' _ ih =>
      have hothers := ih fun other hother => hitems other (List.mem_cons_of_mem _ hother)
      have hcomma := (hothers.gap_append hgap' hgap').mark_cons (c := ',') (by decide)
      have hbehind := hitems item (by simp) hitem
        (stopsAt_number_gap_mark hgap (by decide) _) (stopsAt_number_gap_mark hgap (by decide) _)
        (hcomma.gap_append hgap hgap)
      simpa using hbehind

theorem tokenized_bracketed {α : Type} {spells : α → List Char → Prop} {items : List α}
    {first last : Char} (hfirst : first ∈ marks) (hlast : last ∈ marks)
    (hitems : ∀ item ∈ items, Tokenized (spells item)) :
    Tokenized (Bracketed first last spells items) := by
  intro text rest rest' h _ _ hrespaced
  cases h with
  | empty hgap =>
      have hinside := (hrespaced.mark_cons hlast).gap_append hgap hgap
      simpa using hinside.mark_cons hfirst
  | list hgap h =>
      have hinside := (tokenized_separated hitems h hlast hrespaced).gap_append hgap hgap
      simpa using hinside.mark_cons hfirst

theorem tokenized : Hereditary Tokenized where
  vacuous hnone := fun _ _ _ h => absurd h (hnone _)
  scalar := tokenized_scalar
  bracketed := tokenized_bracketed
  member := tokenized_member

theorem Document.WrittenAs.respaced_self {document : Document} {text : List Char}
    (h : document.WrittenAs text) : Respaced text text := by
  obtain ⟨before, inside, after, rfl, hbefore, hinside, hafter⟩ := h
  have hstop : StopsAt isNumberPart after := by
    simpa using stopsAt_number_gap hafter (stopsAt_nil _)
  have hrow := tokenized.document document hinside hstop hstop (.nil hafter hafter)
  exact hrow.gap_append hbefore hbefore

end CellGrading.Json
