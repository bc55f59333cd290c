import CellGrading.Proofs.Json.Acceptance
import CellGrading.Record.Decoding

/-!
# Tables from JSON objects

A table is decoded from an object of strings and from nothing else.  Its members are made
bindings in their order, so a name may occur more than once.
-/

namespace CellGrading

open Json
open Json.Document

namespace Json

/-! ## Strings -/

/-- The document is a string that stands for the text. -/
def Document.Says (document : Document) (text : String) : Prop :=
  ∃ quoted, document = .string quoted ∧ quoted.decode = .ok text

theorem fault_eq_none_of_decodeUnits {fault : Option Fault} {units : List Nat}
    {text : List Char} (h : decodeUnits fault units = .ok text) : fault = none := by
  fun_induction decodeUnits fault units generalizing text with
  | case2 hnone => exact hnone
  | case4 _ _ _ _ _ ih =>
      obtain ⟨_, hrest, -⟩ := except_bind_eq_ok_iff.1 h
      exact ih hrest
  | case7 _ _ _ _ ih =>
      obtain ⟨_, hrest, -⟩ := except_bind_eq_ok_iff.1 h
      exact ih hrest
  | _ => cases h

namespace Document

theorem ofQuoted_eq_ok_iff {quoted : Quoted} {text : String} :
    ofQuoted quoted = .ok text ↔ quoted.decode = .ok text := by
  unfold ofQuoted
  cases quoted.decode <;> simp [raise]

theorem decodeString_eq_ok_iff {document : Document} {text : String} :
    decodeString document = .ok text ↔ document.Says text := by
  cases document with
  | string quoted => simp [decodeString, ofQuoted_eq_ok_iff, Says]
  | _ => simp [decodeString, mismatch_ne_ok, Says]

theorem decodeKey_eq_ok_iff {document : Document} {text : String} :
    decodeKey document = .ok text ↔ document.Says text := by
  cases document with
  | string quoted => simp [decodeKey, ofQuoted_eq_ok_iff, Says]
  | _ => simp [decodeKey, raise, Says]

theorem Says.exists_units {document : Document} {text : String} (h : document.Says text) :
    ∃ units, document = .string ⟨units, none⟩ := by
  obtain ⟨⟨units, fault⟩, rfl, hdecode⟩ := h
  obtain ⟨_, hunits, -⟩ := except_bind_eq_ok_iff.1 hdecode
  obtain rfl : fault = none := fault_eq_none_of_decodeUnits hunits
  exact ⟨units, rfl⟩

/-! ## Objects of strings -/

def MembersSay : List (Document × Document) → List (String × String) → Prop :=
  List.Forall₂ fun member binding => member.1.Says binding.1 ∧ member.2.Says binding.2

theorem faultOfMembers?_of_membersSay {members : List (Document × Document)}
    {bindings : List (String × String)} (h : MembersSay members bindings) :
    faultOfMembers? members = none := by
  induction h with
  | nil => rfl
  | @cons member _ _ _ hmember _ ih =>
      obtain ⟨key, value⟩ := member
      obtain ⟨_, rfl⟩ := hmember.1.exists_units
      obtain ⟨_, rfl⟩ := hmember.2.exists_units
      simp [faultOfMembers?, fault?, ih]

theorem membersSay_documents (bindings : List (String × String)) :
    MembersSay (Value.memberDocuments (bindings.map fun (name, value) => (name, .string value)))
      bindings := by
  induction bindings with
  | nil => exact .nil
  | cons binding rest ih =>
      have hname := decodeKey_eq_ok_iff.1 (decodeKey_ofText binding.1)
      have hvalue := decodeString_eq_ok_iff.1 (decodeString_document binding.2)
      exact .cons ⟨hname, hvalue⟩ ih

end Document

/-- The text is one of a JSON object of strings with these members, in their order.  A name
may occur more than once. -/
def SpellsBindings (bindings : List (String × String)) (text : String) : Prop :=
  ∃ members, (Document.object members none).WrittenAs text.toList ∧ MembersSay members bindings

theorem spellsBindings_compact (bindings : List (String × String)) :
    SpellsBindings bindings
      (Value.object (bindings.map fun (name, value) => (name, .string value))).compact :=
  ⟨_, Value.writtenAs_compact _, membersSay_documents bindings⟩

end Json

namespace SymbolTable

/-! ## Decoding -/

theorem decodeMembers_insert_eq_ok_iff {members : List (Document × Document)}
    {start table : SymbolTable} :
    decodeMembers (fun table name value => do
        let value ← decodeString value
        return table.insert name value) start members = .ok table ↔
      ∃ bindings, MembersSay members bindings ∧
        table = bindings.foldl (fun table binding => table.insert binding.1 binding.2) start := by
  induction members generalizing start with
  | nil => simp [decodeMembers, MembersSay, eq_comm]
  | cons member rest ih =>
      obtain ⟨key, value⟩ := member
      simp only [decodeMembers, except_bind_eq_ok_iff, decodeKey_eq_ok_iff, decodeString_eq_ok_iff]
      constructor
      · rintro ⟨name, hname, next, ⟨text, htext, ⟨⟩⟩, hrest⟩
        obtain ⟨bindings, hsays, rfl⟩ := ih.1 hrest
        exact ⟨(name, text) :: bindings, .cons ⟨hname, htext⟩ hsays, rfl⟩
      · rintro ⟨bindings, hsays, rfl⟩
        cases hsays with
        | @cons _ binding _ bindings hmember hrest =>
            exact ⟨binding.1, hmember.1, _, ⟨binding.2, hmember.2, rfl⟩,
              ih.2 ⟨bindings, hrest, rfl⟩⟩

theorem decode_eq_ok_iff {document : Document} {table : SymbolTable} :
    SymbolTable.decode document = .ok table ↔
      ∃ members bindings, document = .object members none ∧ MembersSay members bindings ∧
        table = ofList bindings := by
  cases document with
  | object members fault =>
      simp only [SymbolTable.decode, decodeObject, except_bind_eq_ok_iff,
        decodeMembers_insert_eq_ok_iff]
      constructor
      · rintro ⟨_, ⟨bindings, hsays, rfl⟩, _, hfault, ⟨⟩⟩
        cases fault with
        | none => exact ⟨members, bindings, rfl, hsays, rfl⟩
        | some fault => cases hfault
      · rintro ⟨_, bindings, ⟨⟩, hsays, rfl⟩
        exact ⟨_, ⟨bindings, hsays, rfl⟩, (), rfl, rfl⟩
  | _ => simp [SymbolTable.decode, mismatch_ne_ok]

theorem decode_text_eq_ok_iff {text : String} {table : SymbolTable} :
    Json.decode SymbolTable.decode text = .ok table ↔
      ∃ bindings, SpellsBindings bindings text ∧ table = ofList bindings := by
  constructor
  · intro h
    unfold Json.decode at h
    generalize hread : Document.read text.toList = result at h
    obtain ⟨document, trailing⟩ := result
    obtain ⟨found, hfound, hend⟩ := except_bind_eq_ok_iff.1 h
    obtain ⟨members, bindings, rfl, hsays, rfl⟩ := decode_eq_ok_iff.1 hfound
    cases trailing with
    | some fault => cases hend
    | none =>
        cases hend
        have hfault : (Document.object members none).fault? = none := by
          simp [fault?, faultOfMembers?_of_membersSay hsays]
        exact ⟨bindings, ⟨members, Document.writtenAs_iff.2 ⟨hread, hfault⟩, hsays⟩, rfl⟩
  · rintro ⟨bindings, ⟨members, hwritten, hsays⟩, rfl⟩
    rw [decode_of_writtenAs _ hwritten]
    exact decode_eq_ok_iff.2 ⟨members, bindings, rfl, hsays, rfl⟩

end SymbolTable

end CellGrading
