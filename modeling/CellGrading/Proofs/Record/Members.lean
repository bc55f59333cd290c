import CellGrading.Proofs.Json.Decoding
import CellGrading.Record.Decoding

/-!
# Members in any order

What the members of an object tell about a record is a matter of which names occur and
what stands behind them.  Neither their order counts, nor members that no field goes by,
nor whether a default is written out.
-/

namespace CellGrading

namespace Json.Document

/-! ## What members tell -/

section

variable {α : Type}

/-- What stands behind the members of one name, decoded. -/
def told (decode : Document → Decoded α) (field : String)
    (members : List (Document × Document)) : List (Decoded α) :=
  (members.filter fun member => (decodeKey member.1).toOption == some field).map
    fun member => decode member.2

/-- What is known together with what is told comes to at most one value. -/
def Settles (known : Option α) (told : List (Decoded α)) (result : Option α) : Prop :=
  known.toList.map .ok ++ told = result.toList.map .ok

variable {decode : Document → Decoded α} {field name : String} {known result : Option α}
  {key value : Document} {members members' rest : List (Document × Document)}

theorem told_cons (hkey : decodeKey key = .ok name) :
    told decode field ((key, value) :: rest) =
      if name = field then decode value :: told decode field rest
      else told decode field rest := by
  by_cases hname : name = field <;> simp [told, hkey, Except.toOption, hname]

theorem told_append (before after : List (Document × Document)) :
    told decode field (before ++ after) = told decode field before ++ told decode field after := by
  simp [told]

theorem told_perm (h : members.Perm members') :
    (told decode field members).Perm (told decode field members') :=
  (h.filter _).map _

theorem told_eq_nil (decode : Document → Decoded α)
    (h : ∀ member ∈ members, decodeKey member.1 ≠ .ok field) :
    told decode field members = [] := by
  have hfilter : (members.filter fun member =>
      (decodeKey member.1).toOption == some field) = [] := by
    rw [List.filter_eq_nil_iff]
    intro member hmember
    cases hkey : decodeKey member.1 with
    | error => simp [Except.toOption]
    | ok name =>
        intro hname
        have hname : name = field := by simpa [Except.toOption] using hname
        exact h member hmember (hkey.trans (congrArg Except.ok hname))
  rw [told, hfilter, List.map_nil]

@[simp] theorem settles_nil_iff : Settles known [] result ↔ known = result := by
  cases known <;> cases result <;> simp [Settles]

theorem Settles.perm {first second : List (Decoded α)} (h : Settles known first result)
    (hperm : first.Perm second) : Settles known second result := by
  have hsame := hperm.append_left (known.toList.map Except.ok)
  rw [h] at hsame
  cases result with
  | none => exact (List.perm_nil.1 hsame.symm)
  | some value => exact (List.perm_singleton.1 hsame.symm)

theorem settles_middle {before after : List (Decoded α)} {found : α}
    (h : Settles none (before ++ .ok found :: after) result) :
    before = [] ∧ after = [] ∧ result = some found := by
  cases result with
  | none => simp [Settles] at h
  | some value =>
      cases before with
      | nil => simpa [Settles, eq_comm, and_comm] using h
      | cons => simp [Settles] at h

theorem settles_cons_iff (hkey : decodeKey key = .ok name) :
    Settles known (told decode field ((key, value) :: rest)) result ↔
      if name = field then
        ∃ found, decodeOnce name known decode value = .ok found ∧
          Settles (some found) (told decode field rest) result
      else Settles known (told decode field rest) result := by
  rw [told_cons hkey]
  split
  · cases known with
    | some found => cases result <;> simp [Settles, decodeOnce, refuse]
    | none => cases hvalue : decode value <;> cases result <;> simp [Settles, decodeOnce, hvalue]
  · rfl

end

end Json.Document

open Json
open Json.Document

/-! ## Records -/

/-- The fields of a record, and the documents that say no more than leaving them out. -/
structure Record where
  fields : List String
  defaults : List (String × Document)

namespace Record

def Readable (record : Record) (members : List (Document × Document)) : Prop :=
  ∀ member ∈ members, ∃ name, decodeKey member.1 = .ok name ∧
    (name ∉ record.fields → member.2.fault? = none)

theorem Readable.named {record : Record} {members : List (Document × Document)}
    (h : record.Readable members) : ∀ member ∈ members, ∃ name, decodeKey member.1 = .ok name :=
  fun member hmember => (h member hmember).imp fun _ hname => hname.1

theorem readable_nil (record : Record) : record.Readable [] := by simp [Readable]

theorem readable_cons_iff {record : Record} {key value : Document} {name : String}
    {rest : List (Document × Document)} (hkey : decodeKey key = .ok name) :
    record.Readable ((key, value) :: rest) ↔
      (name ∉ record.fields → value.fault? = none) ∧ record.Readable rest := by
  simp [Readable, hkey]

/-- A member that tells no more than its absence: no field goes by its name, whatever it
holds, or it holds a default.  Of a key that is no text there is no name. -/
inductive Silent (record : Record) : Document × Document → Prop
  | foreign {key value : Document} {name : String} (hkey : decodeKey key = .ok name)
      (hname : name ∉ record.fields) : Silent record (key, value)
  | default {key value : Document} {name : String} (hkey : decodeKey key = .ok name)
      (hvalue : (name, value) ∈ record.defaults) : Silent record (key, value)

/-- A change to members that leaves the record as it is.  A member with the name of a
field may only be added where the field was left out. -/
inductive Edit (record : Record) :
    List (Document × Document) → List (Document × Document) → Prop
  | permute {members members' : List (Document × Document)} (h : members.Perm members') :
      Edit record members members'
  | add {before after : List (Document × Document)} {member : Document × Document}
      (h : record.Silent member)
      (habsent : ∀ name ∈ record.fields, decodeKey member.1 = .ok name →
        ∀ other ∈ before ++ after, decodeKey other.1 ≠ .ok name) :
      Edit record (before ++ after) (before ++ member :: after)
  | remove {before after : List (Document × Document)} {member : Document × Document}
      (h : record.Silent member) : Edit record (before ++ member :: after) (before ++ after)

variable {record : Record} {members members' : List (Document × Document)}

theorem Silent.named {member : Document × Document} (h : record.Silent member) :
    ∃ name, decodeKey member.1 = .ok name := by
  cases h with
  | foreign hkey => exact ⟨_, hkey⟩
  | default hkey => exact ⟨_, hkey⟩

theorem Edit.named (h : record.Edit members members')
    (hmembers : ∀ member ∈ members, ∃ name, decodeKey member.1 = .ok name) :
    ∀ member ∈ members', ∃ name, decodeKey member.1 = .ok name := by
  cases h with
  | permute h => exact fun member hmember => hmembers member (h.mem_iff.2 hmember)
  | add h =>
      simp only [List.forall_mem_append, List.forall_mem_cons] at hmembers ⊢
      exact ⟨hmembers.1, h.named, hmembers.2⟩
  | remove =>
      simp only [List.forall_mem_append, List.forall_mem_cons] at hmembers ⊢
      exact ⟨hmembers.1, hmembers.2.2⟩

section

variable {α β : Type} {decode : Document → Decoded α} {field : String} (view : Option α → β)
  {result : Option α}

theorem Silent.told {key value : Document} (h : record.Silent (key, value))
    (hfield : field ∈ record.fields)
    (hdefault : ∀ value, (field, value) ∈ record.defaults →
      ∃ default, decode value = .ok default ∧ view (some default) = view none) :
    (∀ rest, told decode field ((key, value) :: rest) = told decode field rest) ∨
      decodeKey key = .ok field ∧
        ∃ default, decode value = .ok default ∧ view (some default) = view none := by
  cases h with
  | @foreign _ _ name hkey hname =>
      have hne : name ≠ field := fun heq => hname (heq ▸ hfield)
      exact .inl fun rest => by rw [told_cons hkey, if_neg hne]
  | @default _ _ name hkey hvalue =>
      by_cases hne : name = field
      · subst hne
        exact .inr ⟨hkey, hdefault value hvalue⟩
      · exact .inl fun rest => by rw [told_cons hkey, if_neg hne]

/-- Before and after an edit a field is settled to what looks the same, where a default
looks like nothing. -/
theorem Edit.exists_settles (h : record.Edit members members') (hfield : field ∈ record.fields)
    (hdefault : ∀ value, (field, value) ∈ record.defaults →
      ∃ default, decode value = .ok default ∧ view (some default) = view none)
    (hresult : Settles none (Document.told decode field members) result) :
    ∃ result', Settles none (Document.told decode field members') result' ∧
      view result' = view result := by
  cases h with
  | permute h => exact ⟨result, hresult.perm (told_perm h), rfl⟩
  | @add before after member h habsent =>
      obtain hsame | ⟨hkey, default, hvalue, hview⟩ := h.told view hfield hdefault
      · exact ⟨result, by rwa [told_append, hsame, ← told_append], rfl⟩
      · have hnil := told_eq_nil decode (habsent field hfield hkey)
        rw [hnil, settles_nil_iff] at hresult
        subst hresult
        obtain ⟨hbefore, hafter⟩ := List.append_eq_nil_iff.1 (told_append .. ▸ hnil)
        refine ⟨some default, ?_, hview⟩
        rw [told_append, told_cons hkey, if_pos rfl, hbefore, hafter, hvalue]
        rfl
  | @remove before after member h =>
      rw [told_append] at hresult
      obtain hsame | ⟨hkey, default, hvalue, hview⟩ := h.told view hfield hdefault
      · exact ⟨result, by rwa [hsame, ← told_append] at hresult, rfl⟩
      · rw [told_cons hkey, if_pos rfl, hvalue] at hresult
        obtain ⟨hbefore, hafter, rfl⟩ := settles_middle hresult
        refine ⟨none, ?_, hview.symm⟩
        rw [told_append, hbefore, hafter]
        rfl

end

/-! ## Fields -/

/-- A field of a state: how it is decoded, and where the state keeps it. -/
structure Field (σ : Type) where
  {α : Type}
  name : String
  decode : Document → Decoded α
  get : σ → Option α
  put : σ → α → σ

variable {σ : Type}

/-- The members tell what there is to know of each field, once. -/
structure Told (record : Record) (fields : List (Field σ)) (known : σ)
    (members : List (Document × Document)) (result : σ) : Prop where
  readable : record.Readable members
  settles : ∀ field ∈ fields, Settles (field.get known)
    (Document.told field.decode field.name members) (field.get result)

/-- A step takes one member of a record: a field is put where the state keeps it, unless it is
there already, and anything else is passed over. -/
structure TakenBy (record : Record) (fields : List (Field σ))
    (step : σ → String → Document → Decoded σ) : Prop where
  names : fields.map Field.name = record.fields
  nodup : record.fields.Nodup
  step_field : ∀ field ∈ fields, ∀ known value, step known field.name value = do
    return field.put known (← decodeOnce field.name (field.get known) field.decode value)
  step_foreign : ∀ known name value, name ∉ record.fields → step known name value = do
    pass value
    return known
  get_put_self : ∀ field ∈ fields, ∀ known found, field.get (field.put known found) = some found
  get_put_ne : ∀ field ∈ fields, ∀ other ∈ fields, field.name ≠ other.name →
    ∀ known found, other.get (field.put known found) = other.get known
  ext : ∀ known other : σ, (∀ field ∈ fields, field.get known = field.get other) → known = other

namespace TakenBy

variable {fields : List (Field σ)} {step : σ → String → Document → Decoded σ}
  {known result : σ} (h : record.TakenBy fields step)
include h

theorem mem_fields_iff {name : String} :
    name ∈ record.fields ↔ ∃ field ∈ fields, field.name = name := by
  rw [← h.names, List.mem_map]

/-- What holds of every field holds of one of them and of those with other names. -/
theorem forall_fields_iff {p : Field σ → Prop} {field : Field σ} (hfield : field ∈ fields) :
    (∀ other ∈ fields, p other) ↔
      p field ∧ ∀ other ∈ fields, field.name ≠ other.name → p other := by
  constructor
  · exact fun hall => ⟨hall field hfield, fun other hother _ => hall other hother⟩
  · rintro ⟨hself, hothers⟩ other hother
    by_cases hname : field.name = other.name
    · cases List.inj_on_of_nodup_map (h.names ▸ h.nodup) hfield hother hname
      exact hself
    · exact hothers other hother hname

theorem told_nil_iff : record.Told fields known [] result ↔ known = result := by
  constructor
  · intro htold
    exact h.ext known result fun field hfield => settles_nil_iff.1 (htold.settles field hfield)
  · rintro rfl
    exact ⟨record.readable_nil, fun field _ => settles_nil_iff.2 rfl⟩

variable {key value : Document} {rest : List (Document × Document)}

theorem told_cons_field_iff {field : Field σ} (hfield : field ∈ fields)
    (hkey : decodeKey key = .ok field.name) :
    record.Told fields known ((key, value) :: rest) result ↔
      ∃ found, decodeOnce field.name (field.get known) field.decode value = .ok found ∧
        record.Told fields (field.put known found) rest result := by
  have hreadable : record.Readable ((key, value) :: rest) ↔ record.Readable rest := by
    rw [readable_cons_iff hkey]
    exact and_iff_right fun hforeign => absurd (h.mem_fields_iff.2 ⟨field, hfield, rfl⟩) hforeign
  have hself : Settles (field.get known)
        (Document.told field.decode field.name ((key, value) :: rest)) (field.get result) ↔
      ∃ found, decodeOnce field.name (field.get known) field.decode value = .ok found ∧
        Settles (some found) (Document.told field.decode field.name rest) (field.get result) := by
    rw [settles_cons_iff hkey, if_pos rfl]
  have hothers (found : field.α) (other : Field σ) (hother : other ∈ fields)
      (hne : field.name ≠ other.name) :
      Settles (other.get known) (Document.told other.decode other.name ((key, value) :: rest))
          (other.get result) ↔
        Settles (other.get (field.put known found)) (Document.told other.decode other.name rest)
          (other.get result) := by
    rw [settles_cons_iff hkey, if_neg hne, h.get_put_ne field hfield other hother hne]
  constructor
  · rintro ⟨hmembers, hsettles⟩
    obtain ⟨hfirst, hrest⟩ := (h.forall_fields_iff hfield).1 hsettles
    obtain ⟨found, hfound, hfirst⟩ := hself.1 hfirst
    refine ⟨found, hfound, hreadable.1 hmembers, (h.forall_fields_iff hfield).2 ⟨?_, ?_⟩⟩
    · rwa [h.get_put_self field hfield]
    · exact fun other hother hne => (hothers found other hother hne).1 (hrest other hother hne)
  · rintro ⟨found, hfound, hmembers, hsettles⟩
    obtain ⟨hfirst, hrest⟩ := (h.forall_fields_iff hfield).1 hsettles
    rw [h.get_put_self field hfield] at hfirst
    refine ⟨hreadable.2 hmembers, (h.forall_fields_iff hfield).2 ⟨?_, ?_⟩⟩
    · exact hself.2 ⟨found, hfound, hfirst⟩
    · exact fun other hother hne => (hothers found other hother hne).2 (hrest other hother hne)

theorem told_cons_foreign_iff {name : String} (hkey : decodeKey key = .ok name)
    (hname : name ∉ record.fields) :
    record.Told fields known ((key, value) :: rest) result ↔
      value.fault? = none ∧ record.Told fields known rest result := by
  have hsettles (field : Field σ) (hfield : field ∈ fields) :
      Settles (field.get known) (Document.told field.decode field.name ((key, value) :: rest))
          (field.get result) ↔
        Settles (field.get known) (Document.told field.decode field.name rest)
          (field.get result) := by
    rw [settles_cons_iff hkey, if_neg]
    rintro rfl
    exact hname (h.mem_fields_iff.2 ⟨field, hfield, rfl⟩)
  constructor
  · intro htold
    obtain ⟨hvalue, hreadable⟩ := (readable_cons_iff hkey).1 htold.readable
    exact ⟨hvalue hname, hreadable, fun field hfield =>
      (hsettles field hfield).1 (htold.settles field hfield)⟩
  · rintro ⟨hvalue, htold⟩
    exact ⟨(readable_cons_iff hkey).2 ⟨fun _ => hvalue, htold.readable⟩, fun field hfield =>
      (hsettles field hfield).2 (htold.settles field hfield)⟩

theorem told_cons_iff {name : String} (hkey : decodeKey key = .ok name) :
    record.Told fields known ((key, value) :: rest) result ↔
      ∃ next, step known name value = .ok next ∧ record.Told fields next rest result := by
  by_cases hname : name ∈ record.fields
  · obtain ⟨field, hfield, rfl⟩ := h.mem_fields_iff.1 hname
    rw [h.told_cons_field_iff hfield hkey, h.step_field field hfield]
    simp [except_bind_eq_ok_iff]
  · rw [h.told_cons_foreign_iff hkey hname, h.step_foreign known name value hname]
    simp [except_bind_eq_ok_iff, pass_eq_ok_iff]

theorem decodeMembers_eq_ok_iff {members : List (Document × Document)} :
    decodeMembers step known members = .ok result ↔ record.Told fields known members result := by
  induction members generalizing known with
  | nil => rw [decodeMembers, h.told_nil_iff, Except.ok.injEq]
  | cons member rest ih =>
      obtain ⟨key, value⟩ := member
      rw [decodeMembers]
      cases hkey : decodeKey key with
      | error fault =>
          constructor
          · rintro ⟨⟩
          · intro htold
            obtain ⟨name, hname⟩ := htold.readable.named (key, value) (by simp)
            cases hkey.symm.trans hname
      | ok name => simp only [ok_bind, except_bind_eq_ok_iff, h.told_cons_iff hkey, ih]

end TakenBy

end Record

namespace Case

@[simps]
def record : Record where
  fields := ["instruction_id", "column", "row", "expected", "actual"]
  defaults :=
    [("column", (Value.nat 0).document), ("row", (Value.nat 0).document),
      ("expected", (Value.string "").document), ("actual", (Value.string "").document)]

def fields : List (Record.Field Fields) := [
  ⟨"instruction_id", decodeString, Fields.instructionId,
    fun known found => { known with instructionId := some found }⟩,
  ⟨"column", decodeNat, Fields.column, fun known found => { known with column := some found }⟩,
  ⟨"row", decodeNat, Fields.row, fun known found => { known with row := some found }⟩,
  ⟨"expected", decodeString, Fields.expected,
    fun known found => { known with expected := some found }⟩,
  ⟨"actual", decodeString, Fields.actual, fun known found => { known with actual := some found }⟩]

theorem takenBy_readMember : record.TakenBy fields readMember where
  names := rfl
  nodup := by decide
  step_field := by simp [fields, readMember]
  step_foreign known name value hname := by
    simp only [record_fields, List.mem_cons, List.not_mem_nil, or_false, not_or] at hname
    obtain ⟨_, _, _, _, _⟩ := hname
    simp only [readMember]
  get_put_self := by simp [fields]
  get_put_ne := by simp [fields]
  ext := by
    rintro ⟨⟩ ⟨⟩ hget
    simpa [fields] using hget

end Case

namespace Suite

@[simps]
def record : Record where
  fields := ["symbols", "cases"]
  defaults := [("symbols", (Value.object []).document)]

def fields : List (Record.Field Fields) := [
  ⟨"symbols", SymbolTable.decode, Fields.symbols,
    fun known found => { known with symbols := some found }⟩,
  ⟨"cases", decodeList Case.decode, Fields.cases,
    fun known found => { known with cases := some found }⟩]

theorem takenBy_readMember : record.TakenBy fields readMember where
  names := rfl
  nodup := by decide
  step_field := by simp [fields, readMember]
  step_foreign known name value hname := by
    simp only [record_fields, List.mem_cons, List.not_mem_nil, or_false, not_or] at hname
    obtain ⟨_, _⟩ := hname
    simp only [readMember]
  get_put_self := by simp [fields]
  get_put_ne := by simp [fields]
  ext := by
    rintro ⟨⟩ ⟨⟩ hget
    simpa [fields] using hget

end Suite

end CellGrading
