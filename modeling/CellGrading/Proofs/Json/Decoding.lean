import CellGrading.Proofs.Json.Writing
import CellGrading.Proofs.Result

/-!
# Decoding the documents of values

Each decoder takes back what the document of a value holds.
-/

namespace CellGrading.Json

/-! ## Steps -/

@[simp] theorem ok_bind {α β : Type} (found : α) (next : α → Decoded β) :
    ((.ok found : Decoded α) >>= next) = next found :=
  rfl

@[simp] theorem pure_eq_ok {α : Type} (value : α) : (pure value : Decoded α) = .ok value :=
  rfl

/-! ## Strings -/

theorem surrogates_of_char (c : Char) :
    isHighSurrogate c.toNat = false ∧ isLowSurrogate c.toNat = false := by
  have hvalid : c.toNat < 0xD800 ∨ 0xDFFF < c.toNat ∧ c.toNat < 0x110000 := c.valid
  simp only [isHighSurrogate, isLowSurrogate, Bool.and_eq_false_iff, decide_eq_false_iff_not]
  omega

theorem decodeUnits_chars (text : List Char) :
    decodeUnits none (text.map Char.toNat) = .ok text := by
  induction text with
  | nil => simp [decodeUnits]
  | cons c rest ih =>
      obtain ⟨hhigh, hlow⟩ := surrogates_of_char c
      rw [List.map_cons, decodeUnits.eq_def]
      simp only [hhigh, hlow, ih, Char.ofNat_toNat]
      rfl

namespace Document

@[simp] theorem ofQuoted_ofText (text : String) : ofQuoted (Quoted.ofText text) = .ok text := by
  simp only [ofQuoted, Quoted.decode, Quoted.ofText, decodeUnits_chars]
  exact congrArg Except.ok String.ofList_toList

@[simp] theorem decodeString_document (text : String) :
    decodeString (Value.string text).document = .ok text :=
  ofQuoted_ofText text

@[simp] theorem decodeKey_ofText (name : String) :
    decodeKey (.string (Quoted.ofText name)) = .ok name :=
  ofQuoted_ofText name

theorem decodeVariant_document {α : Type} {name : α → String} {all : List α} {value : α}
    (h : (all.find? fun other => name other == name value) = some value) :
    decodeVariant name all (Value.string (name value)).document = .ok value := by
  simp only [Value.document, decodeVariant, ofQuoted_ofText, ok_bind, variant, h]

/-! ## Counts -/

theorem digitsValue_toDigits (n : Nat) : Numeral.digitsValue (Nat.toDigits 10 n) = n := by
  rw [Numeral.digitsValue_eq_ofDigitChars, Nat.ofDigitChars_toDigits (by decide) (by decide)]

@[simp] theorem decodeNat_document {n : Nat} (h : n < UInt64.size) :
    decodeNat (Value.nat n).document = .ok n := by
  simp [Value.document, decodeNat, Number.value?, digitsValue_toDigits, h]

theorem lt_of_value? {number : Number} {n : Nat} (h : number.value? = some (.unsigned n)) :
    n < UInt64.size := by
  have hdouble : number.double?.map (NumberValue.double number.negative) ≠ some (.unsigned n) := by
    cases number.double? <;> simp
  simp only [Number.value?] at h
  split at h
  · exact absurd h hdouble
  · split at h
    · split at h
      · cases h
      · exact absurd h hdouble
    · split at h
      next hlt =>
        cases h
        exact hlt
      next => exact absurd h hdouble

theorem mismatch_ne_ok {α : Type} {expected : String} {document : Document} {value : α} :
    document.mismatch expected ≠ .ok value := by
  fun_cases mismatch expected document <;> simp [refuse, raise]

theorem lt_of_decodeNat {document : Document} {n : Nat} (h : decodeNat document = .ok n) :
    n < UInt64.size := by
  cases document with
  | number number =>
      cases hvalue : number.value? with
      | none => simp [decodeNat, hvalue, raise] at h
      | some value =>
          cases value with
          | unsigned value =>
              simp only [decodeNat, hvalue, Except.ok.injEq] at h
              exact lt_of_value? (h ▸ hvalue)
          | negative value => simp [decodeNat, hvalue, refuse] at h
          | double negative value => simp [decodeNat, hvalue, refuse] at h
  | _ =>
      simp only [decodeNat] at h
      exact absurd h mismatch_ne_ok

end Document

/-! ## Passing over -/

mutual

theorem fault?_of_spells : (document : Document) → {text : List Char} →
    Spells document text → document.fault? = none
  | .null, _, _ => rfl
  | .bool _, _, _ => rfl
  | .number _, _, _ => rfl
  | .cutName, _, h => by cases h
  | .cutNumber, _, h => by cases h
  | .string _, _, h => by
      cases h
      rfl
  | .array items _, _, h => by
      cases h with
      | emptyArray => rfl
      | array _ hitems =>
          simp [Document.fault?, faultOfItems?_of_spells items hitems.exists_text]
  | .object members _, _, h => by
      cases h with
      | emptyObject => rfl
      | object _ hmembers =>
          simp [Document.fault?, faultOfMembers?_of_spells members hmembers.exists_text]
  | .broken _, _, h => by cases h

theorem faultOfItems?_of_spells : (items : List Document) →
    (∀ item ∈ items, ∃ text, Spells item text) → Document.faultOfItems? items = none
  | [], _ => rfl
  | item :: rest, h => by
      obtain ⟨⟨text, hitem⟩, hrest⟩ := List.forall_mem_cons.1 h
      simp [Document.faultOfItems?, fault?_of_spells item hitem,
        faultOfItems?_of_spells rest hrest]

theorem faultOfMembers?_of_spells : (members : List (Document × Document)) →
    (∀ member ∈ members, ∃ text, SpellsMember member text) →
    Document.faultOfMembers? members = none
  | [], _ => rfl
  | (key, value) :: rest, h => by
      obtain ⟨⟨text, hmember⟩, hrest⟩ := List.forall_mem_cons.1 h
      cases hmember with
      | intro _ _ _ hvalue =>
          simp [Document.faultOfMembers?, fault?_of_spells value hvalue,
            faultOfMembers?_of_spells rest hrest]

end

theorem Document.WrittenAs.fault? {document : Document} {text : List Char}
    (h : document.WrittenAs text) : document.fault? = none := by
  obtain ⟨_, _, _, -, -, hinside, -⟩ := h
  exact fault?_of_spells document hinside

theorem Value.fault?_document (value : Value) : value.document.fault? = none :=
  fault?_of_spells _ value.spells_compactChars

namespace Document

theorem pass_eq_ok_iff {document : Document} {result : Unit} :
    pass document = .ok result ↔ document.fault? = none := by
  unfold pass
  cases document.fault? <;> simp [unbroken, raise]

@[simp] theorem pass_document (value : Value) : pass value.document = .ok () :=
  pass_eq_ok_iff.2 value.fault?_document

theorem fault?_of_faultOfItems? {items : List Document} (h : faultOfItems? items = none) :
    ∀ item ∈ items, item.fault? = none := by
  induction items with
  | nil => simp
  | cons item rest ih =>
      obtain ⟨hitem, hrest⟩ := Option.or_eq_none_iff.1 h
      exact List.forall_mem_cons.2 ⟨hitem, ih hrest⟩

theorem fault?_of_faultOfMembers? {members : List (Document × Document)}
    (h : faultOfMembers? members = none) : ∀ member ∈ members, member.2.fault? = none := by
  induction members with
  | nil => simp
  | cons member rest ih =>
      obtain ⟨-, h⟩ := Option.or_eq_none_iff.1 h
      obtain ⟨hvalue, hrest⟩ := Option.or_eq_none_iff.1 h
      exact List.forall_mem_cons.2 ⟨hvalue, ih hrest⟩

/-! ## Arrays and objects -/

theorem decodeList_document {α : Type} {decode : Document → Decoded α} {toValue : α → Value}
    {items : List α} (h : ∀ item ∈ items, decode (toValue item).document = .ok item) :
    decodeList decode (Value.array (items.map toValue)).document = .ok items := by
  have hitems : decodeItems decode (Value.documents (items.map toValue)) = .ok items := by
    induction items with
    | nil => rfl
    | cons item rest ih =>
        have hrest := ih fun other hother => h other (List.mem_cons_of_mem _ hother)
        simp only [List.map_cons, Value.documents, decodeItems, h item (by simp), hrest, ok_bind,
          pure_eq_ok]
  simp only [Value.document, decodeList, hitems, unbroken, ok_bind, pure_eq_ok]

section

variable {σ : Type} {step : σ → String → Document → Decoded σ}

@[simp] theorem decodeMembers_documents_nil (known : σ) :
    decodeMembers step known (Value.memberDocuments []) = .ok known :=
  rfl

@[simp] theorem decodeMembers_documents_cons (known : σ) (name : String) (value : Value)
    (rest : List (String × Value)) :
    decodeMembers step known (Value.memberDocuments ((name, value) :: rest)) =
      step known name value.document >>= fun known =>
        decodeMembers step known (Value.memberDocuments rest) := by
  simp only [Value.memberDocuments, decodeMembers, decodeKey_ofText, ok_bind]

@[simp] theorem decodeObject_none (start : σ) (members : List (Document × Document)) :
    decodeObject step start members none = decodeMembers step start members := by
  unfold decodeObject
  cases decodeMembers step start members <;> rfl

end

@[simp] theorem decodeOnce_none {α : Type} (field : String) (decode : Document → Decoded α)
    (document : Document) : decodeOnce field none decode document = decode document :=
  rfl

@[simp] theorem required_some {α : Type} (field : String) (value : α) :
    required field (some value) = .ok value :=
  rfl

/-! ## One value for another -/

theorem decodeItems_replace {α : Type} {decode : Document → Decoded α} {item item' : Document}
    (hitem : ∀ found, decode item = .ok found → decode item' = .ok found)
    (before : List Document) {after : List Document} {values : List α}
    (h : decodeItems decode (before ++ item :: after) = .ok values) :
    decodeItems decode (before ++ item' :: after) = .ok values := by
  induction before generalizing values with
  | nil =>
      obtain ⟨first, hfirst, hrest⟩ := except_bind_eq_ok_iff.1 h
      exact except_bind_eq_ok_iff.2 ⟨first, hitem first hfirst, hrest⟩
  | cons other rest ih =>
      obtain ⟨first, hfirst, hrest⟩ := except_bind_eq_ok_iff.1 h
      obtain ⟨others, hothers, hvalues⟩ := except_bind_eq_ok_iff.1 hrest
      exact except_bind_eq_ok_iff.2
        ⟨first, hfirst, except_bind_eq_ok_iff.2 ⟨others, ih hothers, hvalues⟩⟩

theorem decodeMembers_replace {σ : Type} {step : σ → String → Document → Decoded σ}
    {key value value' : Document} {name : String} (hkey : decodeKey key = .ok name)
    (hstep : ∀ known next, step known name value = .ok next → step known name value' = .ok next)
    (before : List (Document × Document)) {after : List (Document × Document)} {known result : σ}
    (h : decodeMembers step known (before ++ (key, value) :: after) = .ok result) :
    decodeMembers step known (before ++ (key, value') :: after) = .ok result := by
  induction before generalizing known with
  | nil =>
      simp only [List.nil_append, decodeMembers, hkey, ok_bind] at h ⊢
      obtain ⟨next, hnext, hrest⟩ := except_bind_eq_ok_iff.1 h
      exact except_bind_eq_ok_iff.2 ⟨next, hstep known next hnext, hrest⟩
  | cons member rest ih =>
      obtain ⟨other, hother, h⟩ := except_bind_eq_ok_iff.1 h
      obtain ⟨next, hnext, hrest⟩ := except_bind_eq_ok_iff.1 h
      exact except_bind_eq_ok_iff.2
        ⟨other, hother, except_bind_eq_ok_iff.2 ⟨next, hnext, ih hrest⟩⟩

end Document

end CellGrading.Json
