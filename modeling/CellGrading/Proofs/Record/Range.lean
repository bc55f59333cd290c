import CellGrading.Proofs.Json.Decoding
import CellGrading.Proofs.Suite.Bindings
import CellGrading.Suite.Loading

/-!
# Positions in loaded suites

Whatever a suite is loaded from, the positions of its cases fit in 64 bits.
-/

namespace CellGrading

structure Case.Fits (entry : Case) : Prop where
  column : entry.column < UInt64.size
  row : entry.row < UInt64.size

def Suite.Fits (suite : Suite) : Prop := ∀ entry ∈ suite.cases, entry.Fits

/-! ## Decoders and what they preserve -/

namespace Json.Document

section

variable {σ : Type} {step : σ → String → Document → Decoded σ} {Holds : σ → Prop}

theorem decodeMembers_invariant
    (hstep : ∀ {known name value result}, Holds known → step known name value = .ok result →
      Holds result)
    {known result : σ} {members : List (Document × Document)} (hknown : Holds known)
    (h : decodeMembers step known members = .ok result) : Holds result := by
  induction members generalizing known with
  | nil => exact Except.ok.inj h ▸ hknown
  | cons member rest ih =>
      obtain ⟨key, value⟩ := member
      obtain ⟨name, -, h⟩ := except_bind_eq_ok_iff.1 h
      obtain ⟨next, hnext, h⟩ := except_bind_eq_ok_iff.1 h
      exact ih (hstep hknown hnext) h

theorem decodeObject_invariant
    (hstep : ∀ {known name value result}, Holds known → step known name value = .ok result →
      Holds result)
    {start result : σ} {members : List (Document × Document)} {fault : Option Fault}
    (hstart : Holds start) (h : decodeObject step start members fault = .ok result) :
    Holds result := by
  obtain ⟨known, hknown, h⟩ := except_bind_eq_ok_iff.1 h
  obtain ⟨-, -, ⟨⟩⟩ := except_bind_eq_ok_iff.1 h
  exact decodeMembers_invariant hstep hstart hknown

end

section

variable {α : Type} {decode : Document → Decoded α}

/-- What a decoder gives comes out of some document. -/
def Decodes (decode : Document → Decoded α) (value : α) : Prop :=
  ∃ document, decode document = .ok value

theorem decodes_of_decodeOnce {field : String} {known : Option α} {document : Document}
    {value : α} (h : decodeOnce field known decode document = .ok value) :
    Decodes decode value := by
  unfold decodeOnce at h
  split at h
  · cases h
  · exact ⟨document, h⟩

theorem decodes_of_mem_decodeItems {documents : List Document} {items : List α}
    (h : decodeItems decode documents = .ok items) : ∀ item ∈ items, Decodes decode item := by
  induction documents generalizing items with
  | nil => simp [← Except.ok.inj h]
  | cons document rest ih =>
      obtain ⟨first, hfirst, h⟩ := except_bind_eq_ok_iff.1 h
      obtain ⟨others, hothers, ⟨⟩⟩ := except_bind_eq_ok_iff.1 h
      intro item hitem
      rcases List.mem_cons.1 hitem with rfl | hitem
      · exact ⟨document, hfirst⟩
      · exact ih hothers item hitem

theorem decodes_of_mem_decodeList {document : Document} {items : List α}
    (h : decodeList decode document = .ok items) : ∀ item ∈ items, Decodes decode item := by
  cases document with
  | array documents fault =>
      obtain ⟨values, hvalues, h⟩ := except_bind_eq_ok_iff.1 h
      obtain ⟨-, -, ⟨⟩⟩ := except_bind_eq_ok_iff.1 h
      exact decodes_of_mem_decodeItems hvalues
  | _ =>
      simp only [decodeList] at h
      exact absurd h mismatch_ne_ok

theorem Items.decodes_of_next? {items rest : Items} {value : α}
    (h : items.next? decode = .ok (some value, rest)) : Decodes decode value := by
  unfold Items.next? at h
  split at h
  · obtain ⟨-, -, ⟨⟩⟩ := except_bind_eq_ok_iff.1 h
  next document _ _ =>
    obtain ⟨value', hvalue, ⟨⟩⟩ := except_bind_eq_ok_iff.1 h
    exact ⟨document, hvalue⟩

theorem Items.decodes_of_next {items rest : Items} {expected : String} {value : α}
    (h : items.next expected decode = .ok (value, rest)) : Decodes decode value := by
  obtain ⟨⟨found, behind⟩, hfound, h⟩ := except_bind_eq_ok_iff.1 h
  cases found with
  | none => cases h
  | some found =>
      cases h
      exact Items.decodes_of_next? hfound

end

end Json.Document

/-! ## Suites from JSON -/

open Json
open Json.Document

theorem lt_of_decodes {n : Nat} (h : Decodes decodeNat n) : n < UInt64.size :=
  h.elim fun _ hn => lt_of_decodeNat hn

namespace Case

structure Fields.Fit (fields : Fields) : Prop where
  column : ∀ n ∈ fields.column, n < UInt64.size
  row : ∀ n ∈ fields.row, n < UInt64.size

theorem fits_of_ofFields {fields : Fields} {entry : Case} (hfields : fields.Fit)
    (h : ofFields fields = .ok entry) : entry.Fits := by
  obtain ⟨instructionId, -, ⟨⟩⟩ := except_bind_eq_ok_iff.1 h
  have hgetD (known : Option Nat) (hknown : ∀ n ∈ known, n < UInt64.size) :
      known.getD 0 < UInt64.size := by
    cases known with
    | none => decide
    | some n => exact hknown n rfl
  exact ⟨hgetD fields.column hfields.column, hgetD fields.row hfields.row⟩

theorem fit_of_readMember {fields result : Fields} {key : String} {value : Document}
    (hfields : fields.Fit) (h : readMember fields key value = .ok result) : result.Fit := by
  obtain ⟨hcolumn, hrow⟩ := hfields
  unfold readMember at h
  split at h
  all_goals obtain ⟨found, hfound, ⟨⟩⟩ := except_bind_eq_ok_iff.1 h
  case h_2 =>
    refine ⟨?_, hrow⟩
    rintro n ⟨⟩
    exact lt_of_decodes (decodes_of_decodeOnce hfound)
  case h_3 =>
    refine ⟨hcolumn, ?_⟩
    rintro n ⟨⟩
    exact lt_of_decodes (decodes_of_decodeOnce hfound)
  all_goals exact ⟨hcolumn, hrow⟩

theorem fits_of_decode {document : Document} {entry : Case}
    (h : Case.decode document = .ok entry) : entry.Fits := by
  cases document with
  | object members fault =>
      obtain ⟨fields, hfields, h⟩ := except_bind_eq_ok_iff.1 h
      have hstart : Fields.Fit {} := ⟨nofun, nofun⟩
      exact fits_of_ofFields (decodeObject_invariant fit_of_readMember hstart hfields) h
  | array items fault =>
      obtain ⟨⟨instructionId, behindId⟩, -, h⟩ := except_bind_eq_ok_iff.1 h
      obtain ⟨⟨column, behindColumn⟩, hcolumn, h⟩ := except_bind_eq_ok_iff.1 h
      obtain ⟨⟨row, behindRow⟩, hrow, h⟩ := except_bind_eq_ok_iff.1 h
      obtain ⟨⟨expected, behindExpected⟩, -, h⟩ := except_bind_eq_ok_iff.1 h
      obtain ⟨⟨actual, behindActual⟩, -, h⟩ := except_bind_eq_ok_iff.1 h
      obtain ⟨-, -, h⟩ := except_bind_eq_ok_iff.1 h
      refine fits_of_ofFields ⟨?_, ?_⟩ h
      · rintro n ⟨⟩
        exact lt_of_decodes (Items.decodes_of_next? hcolumn)
      · rintro n ⟨⟩
        exact lt_of_decodes (Items.decodes_of_next? hrow)
  | _ =>
      simp only [Case.decode] at h
      exact absurd h mismatch_ne_ok

end Case

namespace Suite

def Fields.Fit (fields : Fields) : Prop := ∀ cases ∈ fields.cases, ∀ entry ∈ cases, entry.Fits

theorem fits_of_decodes {cases : List Case} (h : Decodes (decodeList Case.decode) cases) :
    ∀ entry ∈ cases, entry.Fits := by
  intro entry hentry
  obtain ⟨document, hdocument⟩ := h
  obtain ⟨item, hitem⟩ := decodes_of_mem_decodeList hdocument entry hentry
  exact Case.fits_of_decode hitem

theorem fit_of_readMember {fields result : Fields} {key : String} {value : Document}
    (hfields : fields.Fit) (h : readMember fields key value = .ok result) : result.Fit := by
  unfold readMember at h
  split at h
  all_goals obtain ⟨found, hfound, ⟨⟩⟩ := except_bind_eq_ok_iff.1 h
  case h_2 =>
    rintro cases ⟨⟩
    exact fits_of_decodes (decodes_of_decodeOnce hfound)
  all_goals exact hfields

theorem fits_of_decode {document : Document} {suite : Suite}
    (h : Suite.decode document = .ok suite) : suite.Fits := by
  cases document with
  | object members fault =>
      obtain ⟨fields, hfields, h⟩ := except_bind_eq_ok_iff.1 h
      have hstart : Fields.Fit {} := nofun
      have hfit := decodeObject_invariant fit_of_readMember hstart hfields
      obtain ⟨cases, hcases, ⟨⟩⟩ := except_bind_eq_ok_iff.1 h
      unfold required at hcases
      split at hcases
      next cases' hsome =>
        cases hcases
        exact hfit cases hsome
      next => cases hcases
  | array items fault =>
      obtain ⟨⟨symbols, behindSymbols⟩, -, h⟩ := except_bind_eq_ok_iff.1 h
      obtain ⟨⟨cases, behindCases⟩, hcases, h⟩ := except_bind_eq_ok_iff.1 h
      obtain ⟨-, -, ⟨⟩⟩ := except_bind_eq_ok_iff.1 h
      exact fits_of_decodes (Items.decodes_of_next hcases)
  | _ =>
      simp only [Suite.decode] at h
      exact absurd h mismatch_ne_ok

end Suite

/-! ## Suites from YAML -/

namespace Yaml

theorem lt_of_numberOfDigits? {base n : Nat} {digits : List Char}
    (h : numberOfDigits? base digits = some n) : n < UInt64.size := by
  unfold numberOfDigits? at h
  split at h
  · cases h
  · simpa using (Option.filter_eq_some_iff.1 h).2

theorem lt_of_countOfDigits? {n : Nat} {digits : List Char}
    (h : countOfDigits? digits = some n) : n < UInt64.size := by
  unfold countOfDigits? at h
  split at h
  case h_4 => cases h
  all_goals exact lt_of_numberOfDigits? h

theorem lt_of_countOfText? {n : Nat} {text : List Char} (h : countOfText? text = some n) :
    n < UInt64.size := by
  unfold countOfText? at h
  split at h
  case h_2 => exact lt_of_countOfDigits? (Option.filter_eq_some_iff.1 h).1
  all_goals exact lt_of_countOfDigits? h

namespace Document

variable {document : Document}

theorem lt_of_decodeCount? {node : Node} {n : Nat} (h : document.decodeCount? node = some n) :
    n < UInt64.size := by
  unfold decodeCount? at h
  split at h
  · split at h
    · exact lt_of_countOfText? h
    · cases h
  · cases h

theorem decodeMember?_invariant {α : Type} (Holds : α → Prop) {decode : Node → Option α}
    {default : Option α} {field : String} {members : List (String × Node)} {value : α}
    (hdecode : ∀ {node value}, decode node = some value → Holds value)
    (hdefault : ∀ value ∈ default, Holds value)
    (h : decodeMember? decode default field members = some value) : Holds value := by
  unfold decodeMember? at h
  split at h
  · exact hdecode h
  · exact hdefault value h

theorem exists_of_mem_mapM {α β : Type} {f : α → Option β} {items : List α} {values : List β}
    (h : items.mapM f = some values) : ∀ value ∈ values, ∃ item ∈ items, f item = some value := by
  induction items generalizing values with
  | nil =>
      simp only [List.mapM_nil] at h
      cases h
      simp
  | cons item rest ih =>
      rw [List.mapM_cons] at h
      obtain ⟨first, hfirst, h⟩ := Option.bind_eq_some_iff.1 h
      obtain ⟨others, hothers, ⟨⟩⟩ := Option.bind_eq_some_iff.1 h
      intro value hvalue
      rcases List.mem_cons.1 hvalue with rfl | hvalue
      · exact ⟨item, by simp, hfirst⟩
      · obtain ⟨other, hother, hvalue⟩ := ih hothers value hvalue
        exact ⟨other, List.mem_cons_of_mem _ hother, hvalue⟩

theorem fits_of_decodeCase? {node : Node} {entry : Case}
    (h : document.decodeCase? node = some entry) : entry.Fits := by
  have hzero : ∀ n ∈ some 0, n < UInt64.size := by
    rintro n ⟨⟩
    decide
  obtain ⟨members, -, h⟩ := Option.bind_eq_some_iff.1 h
  split at h
  · obtain ⟨instructionId, -, h⟩ := Option.bind_eq_some_iff.1 h
    obtain ⟨column, hcolumn, h⟩ := Option.bind_eq_some_iff.1 h
    obtain ⟨row, hrow, h⟩ := Option.bind_eq_some_iff.1 h
    obtain ⟨expected, -, h⟩ := Option.bind_eq_some_iff.1 h
    obtain ⟨actual, -, ⟨⟩⟩ := Option.bind_eq_some_iff.1 h
    exact ⟨decodeMember?_invariant (· < UInt64.size) lt_of_decodeCount? hzero hcolumn,
      decodeMember?_invariant (· < UInt64.size) lt_of_decodeCount? hzero hrow⟩
  · cases h

theorem fits_of_decodeCases? {node : Node} {cases : List Case}
    (h : document.decodeCases? node = some cases) : ∀ entry ∈ cases, entry.Fits := by
  obtain ⟨items, -, h⟩ := Option.bind_eq_some_iff.1 h
  intro entry hentry
  obtain ⟨item, -, hitem⟩ := exists_of_mem_mapM h entry hentry
  exact fits_of_decodeCase? hitem

theorem fits_of_decodeSuite? {suite : Suite} (h : document.decodeSuite? = some suite) :
    suite.Fits := by
  obtain ⟨members, -, h⟩ := Option.bind_eq_some_iff.1 h
  split at h
  · obtain ⟨symbols, -, h⟩ := Option.bind_eq_some_iff.1 h
    obtain ⟨cases, hcases, ⟨⟩⟩ := Option.bind_eq_some_iff.1 h
    exact decodeMember?_invariant (fun cases => ∀ entry ∈ cases, entry.Fits)
      fits_of_decodeCases? nofun hcases
  · cases h

end Document

end Yaml

/-! ## Loaded suites -/

namespace Suite

theorem fits_of_ofYaml? {text : String} {suite : Suite} (h : Suite.ofYaml? text = some suite) :
    suite.Fits := by
  obtain ⟨document, -, hsuite⟩ := Option.bind_eq_some_iff.1 h
  exact Yaml.Document.fits_of_decodeSuite? hsuite

theorem eq_of_checked {suite loaded : Suite} (h : suite.checked = .ok loaded) :
    loaded = suite := by
  unfold checked validated at h
  split at h
  · cases h
  · cases h
    rfl

theorem fits_of_fromText {format : SuiteFormat} {text : String} {suite : Suite}
    (h : fromText format text = .ok suite) : suite.Fits := by
  cases format with
  | yaml =>
      simp only [fromText, fromYaml] at h
      split at h
      next loaded hloaded => exact eq_of_checked h ▸ fits_of_ofYaml? hloaded
      next => cases h
  | json =>
      simp only [fromText, fromJson] at h
      split at h
      next loaded hloaded =>
        obtain ⟨decoded, hdecoded, hrest⟩ := except_bind_eq_ok_iff.1 hloaded
        obtain ⟨-, -, ⟨⟩⟩ := except_bind_eq_ok_iff.1 hrest
        exact eq_of_checked h ▸ fits_of_decode hdecoded
      next => cases h

theorem fits_of_fromPath {read : FileReader} {path : String} {suite : Suite}
    (h : fromPath read path = .ok suite) : suite.Fits := by
  unfold fromPath at h
  split at h
  · obtain ⟨text, -, htext⟩ := except_bind_eq_ok_iff.1 h
    exact fits_of_fromText htext
  · cases h

end Suite

end CellGrading
