import CellGrading.Text.Utf8

/-!
# Access by byte

A text in UTF-8 can be read at a byte and sliced between two bytes.  Both are partial: there
may be no such byte, and a slice has to begin and end where characters do.  What goes wrong is
a fault.
-/

namespace CellGrading.Bytewise

open Text

inductive Fault where
  | byte (index : Nat)
  | slice (start stop : Nat)
  | group (number : Nat)
  | pattern (text : String)
  deriving DecidableEq, Repr

def byteAt (text : String) (index : Nat) : Except Fault UInt8 :=
  if h : index < text.toByteArray.size then .ok text.toByteArray[index] else .error (.byte index)

/-- What stands between two bytes.  Validity of a position is told by the byte there: it
begins a character, or there is none because the text ends. -/
def slice (text : String) (start stop : Nat) : Except Fault String :=
  if h : start ≤ stop ∧
      String.Pos.Raw.IsValid text ⟨start⟩ ∧ String.Pos.Raw.IsValid text ⟨stop⟩ then
    .ok (String.extract (text.pos ⟨start⟩ h.2.1) (text.pos ⟨stop⟩ h.2.2))
  else .error (.slice start stop)

/-! ## Sizes -/

theorem utf8Size_append (first second : List Char) :
    utf8Size (first ++ second) = utf8Size first + utf8Size second := by
  induction first with
  | nil => simp
  | cons c rest ih => rw [List.cons_append, utf8Size_cons, utf8Size_cons, ih, Nat.add_assoc]

theorem utf8Size_le_append (first second : List Char) :
    utf8Size first ≤ utf8Size (first ++ second) := by
  rw [utf8Size_append]
  exact Nat.le_add_right _ _

theorem utf8ByteSize_ofList (text : List Char) :
    (String.ofList text).utf8ByteSize = utf8Size text := by
  induction text with
  | nil => rfl
  | cons c rest ih =>
      rw [String.ofList_cons, String.utf8ByteSize_append, ih, String.utf8ByteSize_singleton,
        utf8Size_cons]

theorem utf8Size_toList (text : String) : utf8Size text.toList = text.utf8ByteSize := by
  rw [← utf8ByteSize_ofList, String.ofList_toList]

/-! ## Boundaries -/

/-- Between two characters of the text, or at an end of it. -/
def IsBoundary (text : List Char) (index : Nat) : Prop :=
  ∃ before after, text = before ++ after ∧ index = utf8Size before

theorem isValid_iff_isBoundary (text : String) (index : Nat) :
    String.Pos.Raw.IsValid text ⟨index⟩ ↔ IsBoundary text.toList index := by
  rw [String.Pos.Raw.isValid_iff_exists_append]
  constructor
  · rintro ⟨before, after, rfl, hindex⟩
    refine ⟨before.toList, after.toList, String.toList_append, ?_⟩
    rw [utf8Size_toList]
    exact congrArg String.Pos.Raw.byteIdx hindex
  · rintro ⟨before, after, htext, rfl⟩
    refine ⟨.ofList before, .ofList after, ?_, ?_⟩
    · rw [← String.ofList_append, ← htext, String.ofList_toList]
    · rw [String.rawEndPos, utf8ByteSize_ofList]

theorem IsBoundary.le {text : List Char} {index : Nat} (h : IsBoundary text index) :
    index ≤ utf8Size text := by
  obtain ⟨before, after, rfl, rfl⟩ := h
  exact utf8Size_le_append before after

theorem isBoundary_of_append {text before piece after : List Char}
    (h : text = before ++ (piece ++ after)) :
    IsBoundary text (utf8Size before) ∧ IsBoundary text (utf8Size (before ++ piece)) :=
  ⟨⟨before, piece ++ after, h, rfl⟩, before ++ piece, after, by rw [h, List.append_assoc], rfl⟩

/-! ## What is had -/

theorem toByteArray_of_append {text : String} {first second : List Char}
    (h : text.toList = first ++ second) :
    text.toByteArray = first.utf8Encode ++ second.utf8Encode := by
  rw [← String.ofList_toList (s := text), h, String.toByteArray_ofList, List.utf8Encode_append]

theorem size_utf8Encode (text : List Char) : text.utf8Encode.size = utf8Size text := by
  rw [← String.toByteArray_ofList, String.size_toByteArray, utf8ByteSize_ofList]

theorem byteAt_zero {text : String} {c : Char} {rest : List Char} (h : text.toList = c :: rest)
    (hc : c.utf8Size = 1) : byteAt text 0 = .ok c.val.toUInt8 := by
  have hcons : text.toList = [c] ++ rest := h
  have hbytes : text.toByteArray = [c.val.toUInt8].toByteArray ++ rest.utf8Encode := by
    rw [toByteArray_of_append hcons, List.utf8Encode_singleton,
      String.utf8EncodeChar_eq_singleton hc]
  have hlt : 0 < text.toByteArray.size := by
    rw [hbytes, ByteArray.size_append]
    exact Nat.add_pos_left (by simp) _
  rw [byteAt, dif_pos hlt, Except.ok.injEq]
  simp only [hbytes]
  rfl

theorem slice_of_append {text : String} (before piece after : List Char)
    (h : text.toList = before ++ (piece ++ after)) :
    slice text (utf8Size before) (utf8Size (before ++ piece)) = .ok (.ofList piece) := by
  obtain ⟨hstart, hstop⟩ := isBoundary_of_append h
  rw [← isValid_iff_isBoundary] at hstart hstop
  rw [slice, dif_pos ⟨utf8Size_le_append before piece, hstart, hstop⟩, Except.ok.injEq,
    ← String.toByteArray_inj, String.toByteArray_extract, String.offset_pos, String.offset_pos,
    String.toByteArray_ofList, toByteArray_of_append h, List.utf8Encode_append, utf8Size_append]
  simp only [← size_utf8Encode]
  rw [← Nat.add_zero before.utf8Encode.size, Nat.add_assoc, Nat.zero_add,
    ByteArray.extract_append_size_add, ByteArray.extract_append_eq_left rfl]

theorem exists_slice_iff (text : String) (start stop : Nat) :
    (∃ piece, slice text start stop = .ok piece) ↔
      start ≤ stop ∧ IsBoundary text.toList start ∧ IsBoundary text.toList stop := by
  rw [← isValid_iff_isBoundary, ← isValid_iff_isBoundary, slice]
  split
  · next h => simp [h]
  · next h => simpa using h

example : ¬ ∃ piece, slice "é" 0 1 = .ok piece := by
  rw [exists_slice_iff, ← isValid_iff_isBoundary, ← isValid_iff_isBoundary]
  decide +kernel

end CellGrading.Bytewise
