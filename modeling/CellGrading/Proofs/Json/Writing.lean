import CellGrading.Json.Value
import CellGrading.Json.Decoder
import CellGrading.Proofs.Decimal.Spelling
import CellGrading.Proofs.Json.Grammar

/-!
# What is written is read back

Both ways of writing a value spell one document, so the text of a value is read as
that document whichever way it was written.
-/

namespace CellGrading.Json

open Text

/-! ## Documents of values -/

def Quoted.ofText (text : String) : Quoted := ⟨text.toList.map Char.toNat, none⟩

namespace Value

mutual

def document : Value → Document
  | .null => .null
  | .bool value => .bool value
  | .nat value => .number ⟨false, Nat.toDigits 10 value, [], none⟩
  | .string text => .string (Quoted.ofText text)
  | .array items => .array (documents items) none
  | .object members => .object (memberDocuments members) none

def documents : List Value → List Document
  | [] => []
  | item :: rest => item.document :: documents rest

def memberDocuments : List (String × Value) → List (Document × Document)
  | [] => []
  | (name, value) :: rest =>
      (.string (Quoted.ofText name), value.document) :: memberDocuments rest

end

@[simp] theorem document_object (members : List (String × Value)) :
    (object members).document = .object (memberDocuments members) none :=
  rfl

end Value

/-! ## Strings -/

theorem hexUnit?_control :
    ∀ code < 0x20, hexUnit? '0' '0' (Nat.digitChar (code / 16)) (Nat.digitChar (code % 16)) =
      some code := by
  decide

theorem spellsUnit_escapeChar (c : Char) : SpellsUnit c.toNat (escapeChar c) := by
  unfold escapeChar
  split
  case h_8 hquote hescape _ _ _ _ _ =>
    split
    · exact .code (hexUnit?_control _ ‹_›)
    · exact .plain (Nat.not_lt.1 ‹_›) hquote hescape
  all_goals exact .escaped rfl

theorem spellsUnits_escaped (text : List Char) :
    SpellsUnits (text.map Char.toNat) (text.flatMap escapeChar) := by
  induction text with
  | nil => exact .nil
  | cons c rest ih => exact .cons (spellsUnit_escapeChar c) ih

theorem spells_quoted (text : String) :
    Spells (.string (Quoted.ofText text)) (quoted text.toList) :=
  .string (spellsUnits_escaped text.toList)

/-! ## Numbers -/

theorem digits_toDigits (n : Nat) : Digits (Nat.toDigits 10 n) :=
  ⟨Nat.toDigits_ne_nil, fun _ => Nat.isDigit_of_mem_toDigits (b := 10) (by decide) (by decide)⟩

theorem digitChar_ne_zero : ∀ n < 10, 0 < n → Nat.digitChar n ≠ '0' := by
  decide

theorem head_toDigits {n : Nat} (hn : 0 < n) :
    ∃ c rest, Nat.toDigits 10 n = c :: rest ∧ c ≠ '0' := by
  induction n using Nat.strongRecOn with
  | ind n ih =>
      rw [Nat.toDigits_eq_if (by decide)]
      by_cases hlt : n < 10
      · exact ⟨_, _, if_pos hlt, digitChar_ne_zero n hlt hn⟩
      · obtain ⟨c, rest, hdigits, hc⟩ := ih (n / 10) (by omega) (by omega)
        exact ⟨c, _, by rw [if_neg hlt, hdigits, List.cons_append], hc⟩

theorem spells_nat (n : Nat) :
    Spells (Value.nat n).document (Nat.toDigits 10 n) := by
  have hzero : ∀ rest, Nat.toDigits 10 n = '0' :: rest → rest = [] := by
    intro rest hdigits
    rcases Nat.eq_zero_or_pos n with rfl | hn
    · simpa using hdigits.symm
    · obtain ⟨c, others, hhead, hc⟩ := head_toDigits hn
      exact absurd (List.cons.inj (hhead.symm.trans hdigits)).1 hc
  have h : SpellsUnsigned false ⟨false, Nat.toDigits 10 n, [], none⟩
      (Nat.toDigits 10 n ++ ([] ++ [])) := .intro (digits_toDigits n) hzero .none .none
  rw [List.append_nil, List.append_nil] at h
  exact .number (.positive h)

/-! ## Items and members -/

theorem gap_blank : Gap [' '] := by decide

theorem gap_newline (level : Nat) : Gap (Value.newline level) := by
  intro c hc
  rcases List.mem_cons.1 hc with rfl | hc
  · rfl
  · rw [List.eq_of_mem_replicate hc]
    rfl

theorem Separated.append_gap {α : Type} {spells : α → List Char → Prop} {items : List α}
    {text gap : List Char} (h : Separated spells items text) (hgap : Gap gap) :
    Separated spells items (text ++ gap) := by
  induction h with
  | one hitem hgap' =>
      rw [List.append_assoc]
      exact .one hitem (hgap'.append hgap)
  | more hitem hgap' hgap'' _ ih =>
      rw [List.append_assoc, List.append_assoc, List.cons_append, List.append_assoc]
      exact .more hitem hgap' hgap'' ih

section

variable {α : Type} {spells : α → List Char → Prop} {item : α} {items : List α}
  {text rest : List Char}

theorem separated_one (hitem : spells item text) : Separated spells [item] text := by
  simpa using Separated.one hitem gap_nil

theorem separated_more (hitem : spells item text) {gap : List Char} (hgap : Gap gap)
    (hrest : Separated spells items rest) :
    Separated spells (item :: items) (text ++ ',' :: (gap ++ rest)) :=
  .more hitem gap_nil hgap hrest

end

theorem spellsMember_quoted (name : String) {value : Document} {gap text : List Char}
    (hgap : Gap gap) (h : Spells value text) :
    SpellsMember (.string (Quoted.ofText name), value)
      (quoted name.toList ++ ':' :: (gap ++ text)) := by
  have hmember := SpellsMember.intro (spellsUnits_escaped name.toList) gap_nil hgap h
  simpa [quoted, Quoted.ofText] using hmember

/-! ## Values -/

namespace Value

mutual

theorem spells_compactChars : (value : Value) → Spells value.document value.compactChars
  | .null => .null
  | .bool true => .trueName
  | .bool false => .falseName
  | .nat value => spells_nat value
  | .string text => spells_quoted text
  | .array [] => .emptyArray gap_nil
  | .array (item :: rest) => .array gap_nil (separated_compactItems (item :: rest) (by simp))
  | .object [] => .emptyObject gap_nil
  | .object (member :: rest) =>
      .object gap_nil (separated_compactMembers (member :: rest) (by simp))

theorem separated_compactItems : (items : List Value) → items ≠ [] →
    Separated Spells (documents items) (compactItems items)
  | [], h => absurd rfl h
  | [item], _ => separated_one (spells_compactChars item)
  | item :: next :: rest, _ =>
      separated_more (spells_compactChars item) gap_nil
        (separated_compactItems (next :: rest) (by simp))

theorem separated_compactMembers : (members : List (String × Value)) → members ≠ [] →
    Separated SpellsMember (memberDocuments members) (compactMembers members)
  | [], h => absurd rfl h
  | [(name, value)], _ =>
      separated_one (spellsMember_quoted name gap_nil (spells_compactChars value))
  | (name, value) :: next :: rest, _ => by
      have hmember := spellsMember_quoted name gap_nil (spells_compactChars value)
      have hmore := separated_more hmember gap_nil
        (separated_compactMembers (next :: rest) (by simp))
      simpa [compactMembers, memberDocuments] using hmore

end

mutual

theorem spells_prettyChars (level : Nat) :
    (value : Value) → Spells value.document (value.prettyChars level)
  | .null => .null
  | .bool true => .trueName
  | .bool false => .falseName
  | .nat value => spells_nat value
  | .string text => spells_quoted text
  | .array [] => .emptyArray gap_nil
  | .array (item :: rest) => by
      obtain ⟨text, htext, hitems⟩ := separated_prettyItems (level + 1) (item :: rest) (by simp)
      have harray := Spells.array (gap_newline (level + 1))
        (hitems.append_gap (gap_newline level))
      simpa [prettyChars, document, htext] using harray
  | .object [] => .emptyObject gap_nil
  | .object (member :: rest) => by
      obtain ⟨text, htext, hmembers⟩ :=
        separated_prettyMembers (level + 1) (member :: rest) (by simp)
      have hobject := Spells.object (gap_newline (level + 1))
        (hmembers.append_gap (gap_newline level))
      simpa [prettyChars, document, htext] using hobject

theorem separated_prettyItems (level : Nat) : (items : List Value) → items ≠ [] →
    ∃ text, prettyItems level items = newline level ++ text ∧
      Separated Spells (documents items) text
  | [], h => absurd rfl h
  | [item], _ => ⟨_, rfl, separated_one (spells_prettyChars level item)⟩
  | item :: next :: rest, _ => by
      obtain ⟨text, htext, hrest⟩ := separated_prettyItems level (next :: rest) (by simp)
      refine ⟨_, ?_, separated_more (spells_prettyChars level item) (gap_newline level) hrest⟩
      simp [prettyItems, htext]

theorem separated_prettyMembers (level : Nat) : (members : List (String × Value)) →
    members ≠ [] →
    ∃ text, prettyMembers level members = newline level ++ text ∧
      Separated SpellsMember (memberDocuments members) text
  | [], h => absurd rfl h
  | [(name, value)], _ => by
      refine ⟨_, ?_, separated_one (spellsMember_quoted name gap_blank
        (spells_prettyChars level value))⟩
      simp [prettyMembers]
  | (name, value) :: next :: rest, _ => by
      obtain ⟨text, htext, hrest⟩ := separated_prettyMembers level (next :: rest) (by simp)
      refine ⟨_, ?_, separated_more (spellsMember_quoted name gap_blank
        (spells_prettyChars level value)) (gap_newline level) hrest⟩
      simp [prettyMembers, htext]

end

end Value

/-! ## Decoding what was written -/

section

variable {α : Type} (decodeDocument : Document → Decoded α) (value : Value)

theorem decode_of_writtenAs {document : Document} {text : String}
    (h : document.WrittenAs text.toList) :
    decode decodeDocument text = decodeDocument document := by
  simp only [decode, h.read]
  cases decodeDocument document <;> rfl

theorem Value.writtenAs_compact : value.document.WrittenAs value.compact.toList := by
  simpa [Value.compact] using value.spells_compactChars.writtenAs gap_nil

theorem Value.writtenAs_pretty {after : List Char} (hafter : Gap after) :
    value.document.WrittenAs (value.pretty.toList ++ after) := by
  simpa [Value.pretty] using (value.spells_prettyChars 0).writtenAs hafter

theorem decode_compact : decode decodeDocument value.compact = decodeDocument value.document :=
  decode_of_writtenAs decodeDocument value.writtenAs_compact

theorem decode_pretty : decode decodeDocument value.pretty = decodeDocument value.document :=
  decode_of_writtenAs decodeDocument (by simpa using value.writtenAs_pretty gap_nil)

theorem decode_pretty_line :
    decode decodeDocument (value.pretty ++ "\n") = decodeDocument value.document := by
  have hgap : Gap ['\n'] := by decide
  exact decode_of_writtenAs decodeDocument (by simpa using value.writtenAs_pretty hgap)

end

end CellGrading.Json
