import CellGrading.Proofs.Json.Spacing
import CellGrading.Proofs.Record.Members
import CellGrading.Proofs.Suite.Serialization
import Mathlib.Logic.Relation

/-!
# Suites laid out in another way

Blanks between tokens, the order of members, members without a meaning and defaults that
are written out or left out: a suite is loaded as the same suite whichever way its text is
laid out in these respects.
-/

namespace CellGrading

open Json
open Json.Document

/-! ## Objects -/

theorem Record.Edit.readable {record : Record} {members members' : List (Document × Document)}
    (h : record.Edit members members') (hreadable : record.Readable members)
    (hfault : Document.fault? (.object members' none) = none) : record.Readable members' := by
  intro member hmember
  obtain ⟨name, hname⟩ := h.named hreadable.named member hmember
  have hvalue := fault?_of_faultOfMembers? (Option.or_eq_none_iff.1 hfault).1 member hmember
  exact ⟨name, hname, fun _ => hvalue⟩

theorem Case.decode_of_edit {members members' : List (Document × Document)} {entry : Case}
    (h : Case.record.Edit members members')
    (hfault : Document.fault? (.object members' none) = none)
    (hentry : Case.decode (.object members none) = .ok entry) :
    Case.decode (.object members' none) = .ok entry := by
  simp only [Case.decode, decodeObject_none, except_bind_eq_ok_iff,
    takenBy_readMember.decodeMembers_eq_ok_iff] at hentry ⊢
  obtain ⟨known, ⟨hreadable, hsettles⟩, hentry⟩ := hentry
  simp only [fields, List.forall_mem_cons] at hsettles
  obtain ⟨hid, hcolumn, hrow, hexpected, hactual, -⟩ := hsettles
  obtain ⟨instructionId, hid, hidView⟩ := h.exists_settles id (by simp) (by simp) hid
  obtain ⟨column, hcolumn, hcolumnView⟩ :=
    h.exists_settles (Option.getD · 0) (by simp) (by simp) hcolumn
  obtain ⟨row, hrow, hrowView⟩ := h.exists_settles (Option.getD · 0) (by simp) (by simp) hrow
  obtain ⟨expected, hexpected, hexpectedView⟩ :=
    h.exists_settles (Option.getD · "") (by simp) (by simp) hexpected
  obtain ⟨actual, hactual, hactualView⟩ :=
    h.exists_settles (Option.getD · "") (by simp) (by simp) hactual
  refine ⟨⟨instructionId, column, row, expected, actual⟩, ⟨h.readable hreadable hfault, ?_⟩, ?_⟩
  · simp only [fields, List.forall_mem_cons]
    exact ⟨hid, hcolumn, hrow, hexpected, hactual, by simp⟩
  · simp only [id] at hidView
    rw [← hentry]
    simp only [ofFields, hidView, hcolumnView, hrowView, hexpectedView, hactualView]

namespace Suite

theorem decode_of_record_edit {members members' : List (Document × Document)} {suite : Suite}
    (h : Suite.record.Edit members members')
    (hfault : Document.fault? (.object members' none) = none)
    (hsuite : Suite.decode (.object members none) = .ok suite) :
    Suite.decode (.object members' none) = .ok suite := by
  simp only [Suite.decode, decodeObject_none, except_bind_eq_ok_iff,
    takenBy_readMember.decodeMembers_eq_ok_iff] at hsuite ⊢
  obtain ⟨known, ⟨hreadable, hsettles⟩, hsuite⟩ := hsuite
  simp only [fields, List.forall_mem_cons] at hsettles
  obtain ⟨hsymbols, hcases, -⟩ := hsettles
  obtain ⟨symbols, hsymbols, hsymbolsView⟩ :=
    h.exists_settles (Option.getD · SymbolTable.empty) (by simp) (by simp [SymbolTable.decode])
      hsymbols
  obtain ⟨cases, hcases, hcasesView⟩ := h.exists_settles id (by simp) (by simp) hcases
  refine ⟨⟨symbols, cases⟩, ⟨h.readable hreadable hfault, ?_⟩, ?_⟩
  · simp only [fields, List.forall_mem_cons]
    exact ⟨hsymbols, hcases, by simp⟩
  · simp only [id] at hcasesView
    simpa only [hsymbolsView, hcasesView] using hsuite

/-! ## Documents -/

/-- An edit of the object of a suite, or of the object of one of its cases. -/
inductive Edit : Document → Document → Prop
  | suite {members members' : List (Document × Document)}
      (h : Suite.record.Edit members members') :
      Edit (.object members none) (.object members' none)
  | case {front back members members' : List (Document × Document)} {key : Document}
      {before after : List Document} (hkey : decodeKey key = .ok "cases")
      (h : Case.record.Edit members members') :
      Edit
        (.object (front ++ (key, .array (before ++ .object members none :: after) none) :: back)
          none)
        (.object (front ++ (key, .array (before ++ .object members' none :: after) none) :: back)
          none)

theorem readMember_cases {known next : Fields} {value value' : Document}
    (hvalue : ∀ cases, decodeList Case.decode value = .ok cases →
      decodeList Case.decode value' = .ok cases)
    (h : readMember known "cases" value = .ok next) :
    readMember known "cases" value' = .ok next := by
  obtain ⟨cases, hcases, ⟨⟩⟩ := except_bind_eq_ok_iff.1 h
  refine except_bind_eq_ok_iff.2 ⟨cases, ?_, rfl⟩
  unfold decodeOnce at hcases ⊢
  split at hcases
  · cases hcases
  next hknown => rw [if_neg hknown, hvalue cases hcases]

theorem decode_of_edit {document document' : Document} {suite : Suite}
    (h : Edit document document') (hfault : document'.fault? = none)
    (hsuite : Suite.decode document = .ok suite) : Suite.decode document' = .ok suite := by
  cases h with
  | suite h => exact decode_of_record_edit h hfault hsuite
  | @case front back members members' key before after hkey h =>
      have hmembers := fault?_of_faultOfMembers? (Option.or_eq_none_iff.1 hfault).1
      have hitems := hmembers (key, .array (before ++ .object members' none :: after) none)
        (by simp)
      have hitem := fault?_of_faultOfItems? (Option.or_eq_none_iff.1 hitems).1
        (.object members' none) (by simp)
      simp only [Suite.decode, decodeObject_none, except_bind_eq_ok_iff] at hsuite ⊢
      obtain ⟨fields, hfields, hsuite⟩ := hsuite
      refine ⟨fields, decodeMembers_replace hkey (fun known next => ?_) front hfields, hsuite⟩
      refine readMember_cases fun cases hcases => ?_
      simp only [decodeList, except_bind_eq_ok_iff] at hcases ⊢
      obtain ⟨entries, hentries, hcases⟩ := hcases
      exact ⟨entries, decodeItems_replace (fun _ => Case.decode_of_edit h hitem) before hentries,
        hcases⟩

/-! ## Texts -/

/-- One text is another laid out in another way: it has other blanks between its tokens,
or the documents of the two are an edit apart. -/
inductive Relaid : String → String → Prop
  | blanks {document : Document} {text text' : String} (h : document.WrittenAs text.toList)
      (hrespaced : Respaced text.toList text'.toList) : Relaid text text'
  | members {document document' : Document} {text text' : String}
      (h : document.WrittenAs text.toList) (h' : document'.WrittenAs text'.toList)
      (hedit : Edit document document') : Relaid text text'

theorem fromJson_eq_ok_iff {document : Document} {text : String} {suite : Suite}
    (h : document.WrittenAs text.toList) :
    fromJson text = .ok suite ↔ Suite.decode document = .ok suite ∧ suite.Sound := by
  rw [fromJson, decode_of_writtenAs Suite.decode h]
  cases hdocument : Suite.decode document with
  | error fault => simp
  | ok found =>
      simp only [checked_eq_ok_iff, Except.ok.injEq]
      constructor
      · rintro ⟨hsound, rfl⟩
        exact ⟨rfl, hsound⟩
      · rintro ⟨rfl, hsound⟩
        exact ⟨hsound, rfl⟩

theorem Relaid.fromJson_eq_ok {text text' : String} {suite : Suite} (h : Relaid text text')
    (hload : fromJson text = .ok suite) : fromJson text' = .ok suite := by
  cases h with
  | blanks h hrespaced =>
      rw [fromJson_eq_ok_iff (h.respaced hrespaced), ← fromJson_eq_ok_iff h]
      exact hload
  | members h h' hedit =>
      obtain ⟨hdecode, hsound⟩ := (fromJson_eq_ok_iff h).1 hload
      exact (fromJson_eq_ok_iff h').2 ⟨decode_of_edit hedit h'.fault? hdecode, hsound⟩

/-- A suite that is loaded from a text is loaded from every text that comes out of it by
laying it out in another way, any number of times. -/
theorem fromJson_of_relaid {text text' : String} {suite : Suite}
    (h : Relation.ReflTransGen Relaid text text') (hload : fromJson text = .ok suite) :
    fromJson text' = .ok suite := by
  induction h with
  | refl => exact hload
  | tail _ hstep ih => exact hstep.fromJson_eq_ok ih

def single : Suite := ⟨.ofList [("X", "1")], [{ instructionId := "a" }]⟩

def laidOut (front inside back : List (String × Value)) : Value :=
  .object (front ++
    ("cases", .array [.object ([("instruction_id", .string "a"), ("column", .nat 0)] ++ inside ++
      [("expected", .string ""), ("actual", .string "")])]) :: back)

def noteMember : String × Value := ("note", .array [.null])

def rowMember : String × Value := ("row", .nat 0)

def symbolsMember : String × Value := ("symbols", .object [("X", .string "1")])

theorem fromJson_of_relaid_note :
    fromJson single.toJson.compact = .ok single ∧
      fromJson (.ofList ('{' :: '\n' ::
        (laidOut [noteMember] [] [symbolsMember]).compactChars.tail)) = .ok single := by
  have hfits : single.Fits := by
    intro entry hentry
    simp only [single, List.mem_singleton] at hentry
    subst hentry
    constructor <;> decide
  have hload : fromJson single.toJson.compact = .ok single := by
    rw [fromJson_of_written hfits (.inl rfl), checked_eq_ok_iff]
    exact ⟨by decide, rfl⟩
  have hedit (value value' : Value) (h : Edit value.document value'.document) :
      Relaid value.compact value'.compact :=
    .members value.writtenAs_compact value'.writtenAs_compact h
  have hreorder : Edit single.toJson.document (laidOut [] [rowMember] [symbolsMember]).document :=
    .suite (.permute (.swap ..))
  have hannotate : Edit (laidOut [] [rowMember] [symbolsMember]).document
      (laidOut [noteMember] [rowMember] [symbolsMember]).document := by
    refine .suite (@Record.Edit.add _ [] _ _ (.foreign (decodeKey_ofText "note") (by decide)) ?_)
    simp
  have hshorten : Edit (laidOut [noteMember] [rowMember] [symbolsMember]).document
      (laidOut [noteMember] [] [symbolsMember]).document := by
    refine @Edit.case (Value.memberDocuments [noteMember]) _ _ _ _ [] []
      (decodeKey_ofText "cases") ?_
    exact @Record.Edit.remove _
      (Value.memberDocuments [("instruction_id", .string "a"), ("column", .nat 0)]) _ _
      (.default (decodeKey_ofText "row") (by simp))
  have hspace (value : Value) (hopen : value.compactChars = '{' :: value.compactChars.tail) :
      Relaid value.compact (.ofList ('{' :: '\n' :: value.compactChars.tail)) := by
    have hself := value.writtenAs_compact.respaced_self
    refine .blanks value.writtenAs_compact ?_
    rw [Value.compact, String.toList_ofList, hopen] at hself ⊢
    have hbreak : Gap ['\n'] := by decide
    have hinside := hself.of_mark_cons (by decide)
    simpa using (hinside.gap_append gap_nil hbreak).mark_cons (c := '{') (by decide)
  refine ⟨hload, fromJson_of_relaid ?_ hload⟩
  calc Relation.ReflTransGen Relaid single.toJson.compact _ := .single (hedit _ _ hreorder)
    Relation.ReflTransGen Relaid _ _ := .single (hedit _ _ hannotate)
    Relation.ReflTransGen Relaid _ _ := .single (hedit _ _ hshorten)
    Relation.ReflTransGen Relaid _ _ := .single (hspace _ rfl)

end Suite

end CellGrading
