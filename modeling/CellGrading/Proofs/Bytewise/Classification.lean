import CellGrading.Proofs.Bytewise.Pattern
import CellGrading.Proofs.Decimal.Reading

/-!
# Classification by byte

Numbers are read and cells are classified with partial operations alone: patterns that may mean
nothing, groups that may have no part in a match, bytes that may not be there.  None of them
faults, and what they find is what the recognisers find.
-/

namespace CellGrading.Bytewise

open Text Pattern

/-! ## Numbers -/

def isNumber (text : String) : Except Fault Bool := do
  let found ← firstMatch? numberPattern text
  return found.isSome

/-- The sign of a number as a reader of plain decimals takes it, told by the first byte, and
what follows it. -/
def splitSign (text : String) : Except Fault (List Char × String) := do
  let first ← byteAt text 0
  if first = '-'.val.toUInt8 then
    let body ← slice text 1 text.utf8ByteSize
    return (['-'], body)
  else if first = '+'.val.toUInt8 then
    let body ← slice text 1 text.utf8ByteSize
    return ([], body)
  else return ([], text)

def number (read : List Char → Option Decimal) (text : String) :
    Except Fault (Option Decimal) := do
  let trimmed := trim text
  if ← isNumber trimmed then
    let (sign, body) ← splitSign trimmed
    let digits := body.toList
    return read (sign ++ (Numeral.zeroBeside digits.head? ++ digits ++
      Numeral.zeroBeside digits.getLast?))
  else return none

theorem isNumber_eq (text : String) : isNumber text = .ok (Numeral.isNumeral text.toList) := by
  rw [Numeral.isNumeral]
  cases hread : Numeral.read? text.toList with
  | none =>
      rw [isNumber, recognizes_number.rejects hread]
      rfl
  | some numeral =>
      obtain ⟨found, hfound, -⟩ := recognizes_number.accepts hread
      rw [isNumber, hfound]
      rfl

theorem utf8Size_of_isPart {c : Char} (h : Numeral.isPart c = true) : c.utf8Size = 1 := by
  simp only [Numeral.isPart, Bool.or_eq_true, beq_iff_eq] at h
  rcases h with ((hdigit | rfl) | rfl) | rfl
  · have hsize : utf8Size [c] = 1 := Numeral.utf8Size_digits (by simpa using hdigit)
    simpa using hsize
  · rfl
  · rfl
  · rfl

theorem exists_byteAt_slice {text : String} (h : Numeral.IsLiteral text.toList) :
    ∃ c rest, text.toList = c :: rest ∧ byteAt text 0 = .ok c.val.toUInt8 ∧
      slice text 1 text.utf8ByteSize = .ok (.ofList rest) := by
  obtain ⟨c, rest, htext⟩ := List.exists_cons_of_ne_nil h.ne_nil
  have hsize : c.utf8Size = 1 := utf8Size_of_isPart (h.isPart c (by simp [htext]))
  refine ⟨c, rest, htext, byteAt_zero htext hsize, ?_⟩
  have hslice := slice_of_append [c] rest [] (htext.trans (by simp))
  have hend : utf8Size ([c] ++ rest) = text.utf8ByteSize := by
    rw [← utf8Size_toList, htext, List.singleton_append]
  rwa [hend, utf8Size_cons, utf8Size_nil, hsize] at hslice

theorem toUInt8_inj_of_isPart {c d : Char} (hc : Numeral.isPart c = true)
    (hd : Numeral.isPart d = true) : c.val.toUInt8 = d.val.toUInt8 ↔ c = d := by
  have hsmall {e : Char} (he : Numeral.isPart e = true) :
      e.val.toUInt8.toNat = e.toNat := by
    have hle := UInt32.le_iff_toNat_le.1 (Char.utf8Size_eq_one_iff.1 (utf8Size_of_isPart he))
    rw [UInt32.toNat_toUInt8]
    exact Nat.mod_eq_of_lt (Nat.lt_of_le_of_lt hle (by decide))
  rw [← UInt8.toNat_inj, hsmall hc, hsmall hd, Char.toNat_inj]

theorem splitSign_eq {text : String} (h : Numeral.IsLiteral text.toList) :
    splitSign text = .ok (Numeral.minus (Numeral.splitSign text.toList).1,
      .ofList (Numeral.splitSign text.toList).2) := by
  obtain ⟨c, rest, htext, hbyte, hslice⟩ := exists_byteAt_slice h
  have hc : Numeral.isPart c = true := h.isPart c (by simp [htext])
  simp only [splitSign, hbyte, hslice, htext, bind, Except.bind,
    toUInt8_inj_of_isPart hc (d := '-') rfl, toUInt8_inj_of_isPart hc (d := '+') rfl]
  by_cases hminus : c = '-'
  · subst hminus
    rfl
  by_cases hplus : c = '+'
  · subst hplus
    rfl
  have hsign : Numeral.splitSign (c :: rest) = (false, c :: rest) :=
    Numeral.splitSign_of_not_sign (by simpa using hminus) (by simpa using hplus)
  rw [if_neg hminus, if_neg hplus, hsign, ← htext, String.ofList_toList]
  rfl

theorem number_eq {read : List Char → Option Decimal} (hread : Numeral.PlainReader read)
    (text : String) : number read text = .ok (Decimal.ofText? text) := by
  have htrimmed : (trim text).toList = trimChars text.toList := toList_trim text
  cases hnumeral : Numeral.read? (trimChars text.toList) with
  | none =>
      have hno : isNumber (trim text) = .ok false := by
        rw [isNumber_eq, htrimmed, Numeral.isNumeral, hnumeral]
        rfl
      simp only [number, hno, Decimal.ofText?, hnumeral]
      rfl
  | some numeral =>
      have hspells := (Numeral.read?_eq_some_iff _ _).1 hnumeral
      have hyes : isNumber (trim text) = .ok true := by
        rw [isNumber_eq, htrimmed, Numeral.isNumeral, hnumeral]
        rfl
      have hliteral : Numeral.IsLiteral (trim text).toList := htrimmed ▸ ⟨numeral, hspells⟩
      have hsplit := splitSign_eq hliteral
      have hvalue := Numeral.read_writtenOut hread hspells
      simp only [number, hyes, hsplit, htrimmed, bind, Except.bind, if_true,
        String.toList_ofList, Decimal.ofText?, hnumeral, Option.map_some]
      exact congrArg Except.ok hvalue

/-! ## Literals -/

section

variable {read : List Char → Option Decimal} (hread : Numeral.PlainReader read)

def literal (text : String) : Except Fault (Option Literal) :=
  match h : number read (trim text) with
  | .error fault => .error fault
  | .ok none => .ok none
  | .ok (some value) =>
      .ok (some ⟨trim text, value, trim_trim text,
        Except.ok.inj ((number_eq hread _).symm.trans h)⟩)

theorem literal_eq (text : String) : literal hread text = .ok (Literal.ofText? text) := by
  have hnumber := number_eq hread (trim text)
  unfold literal
  split
  · next fault h =>
      rw [hnumber] at h
      cases h
  · next h =>
      have hnone : Decimal.ofText? text = none := by
        rw [← Decimal.ofText?_trim, Except.ok.inj (hnumber.symm.trans h)]
      rw [(Literal.ofText?_eq_none_iff text).2 hnone]
  · next value h =>
      cases hliteral : Literal.ofText? text with
      | none =>
          have hnone := (Literal.ofText?_eq_none_iff text).1 hliteral
          rw [← Decimal.ofText?_trim, Except.ok.inj (hnumber.symm.trans h)] at hnone
          cases hnone
      | some literal =>
          refine congrArg (Except.ok ∘ some) (Literal.ext_of_text ?_)
          exact (Literal.text_of_ofText? hliteral).symm

/-! ## Cells -/

def interval? (trimmed : String) : Except Fault (Option Spec) := do
  let some found ← firstMatch? intervalPattern trimmed | return none
  let some low ← literal hread (← found.group trimmed 1) | return none
  let some lowOp := BoundOp.ofSymbol? (← found.group trimmed 2) | return none
  let some highOp := BoundOp.ofSymbol? (← found.group trimmed 3) | return none
  let some high ← literal hread (← found.group trimmed 4) | return none
  return some (.interval low lowOp highOp high)

def comparison? (trimmed : String) : Except Fault (Option Spec) := do
  let some found ← firstMatch? comparisonPattern trimmed | return none
  let mark ← found.group trimmed 1
  let some operand ← literal hread (← found.group trimmed 3) | return none
  let symbol ← found.group trimmed 2
  if symbol = "~=" then return some (.approx (!mark.isEmpty) operand)
  else
    let some op := RelationalOp.ofSymbol? symbol | return none
    return some (.relational op (!mark.isEmpty) operand)

/-- The spec that the text of a cell stands for; the shapes are tried one after the other. -/
def classify (text : String) : Except Fault Spec := do
  if text.isEmpty then return .blank
  else
    let trimmed := trim text
    match ← firstMatch? capturePattern trimmed with
    | some found => return .capture (← found.group trimmed 1)
    | none =>
        match ← firstMatch? regexPattern trimmed with
        | some found => return .regex (← found.group trimmed 1)
        | none =>
            match ← interval? hread trimmed with
            | some spec => return spec
            | none =>
                match ← comparison? hread trimmed with
                | some spec => return spec
                | none => return .plain text

theorem interval?_eq (trimmed : String) :
    interval? hread trimmed = .ok ((Shape.interval? trimmed.toList).bind Spec.ofInterval?) := by
  cases hparts : Shape.interval? trimmed.toList with
  | none =>
      simp only [interval?, recognizes_interval.rejects hparts]
      rfl
  | some parts =>
      obtain ⟨found, hfound, hgroups⟩ := recognizes_interval.accepts hparts
      have hlow := hgroups 0 _ rfl
      have hlowOp := hgroups 1 _ rfl
      have hhighOp := hgroups 2 _ rfl
      have hhigh := hgroups 3 _ rfl
      simp only [interval?, hfound, hlow, hlowOp, hhighOp, hhigh, literal_eq, bind, Except.bind,
        BoundOp.ofSymbol?_symbol, Option.bind_some, Spec.ofInterval?]
      cases Literal.ofText? (.ofList parts.low) with
      | none => rfl
      | some low => cases Literal.ofText? (.ofList parts.high) <;> rfl

theorem isEmpty_mark (negated : Bool) :
    (!(String.ofList (Form.mark negated)).isEmpty) = negated := by
  cases negated <;> decide

theorem comparison?_eq (trimmed : String) :
    comparison? hread trimmed =
      .ok ((Shape.comparison? trimmed.toList).bind Spec.ofComparison?) := by
  cases hparts : Shape.comparison? trimmed.toList with
  | none =>
      simp only [comparison?, recognizes_comparison.rejects hparts]
      rfl
  | some parts =>
      obtain ⟨found, hfound, hgroups⟩ := recognizes_comparison.accepts hparts
      have hmark := hgroups 0 _ rfl
      have hcomparator := hgroups 1 _ rfl
      have hoperand := hgroups 2 _ rfl
      obtain ⟨negated, comparator, operand⟩ := parts
      simp only [comparison?, hfound, hmark, hcomparator, hoperand, literal_eq, bind, Except.bind,
        isEmpty_mark, Option.bind_some, Spec.ofComparison?]
      cases Literal.ofText? (.ofList operand) with
      | none => rfl
      | some literal =>
          cases comparator with
          | rounded => rfl
          | exact op => cases op <;> rfl

theorem classify_eq (text : String) : classify hread text = .ok (Spec.ofText text) := by
  have htrimmed : (trim text).toList = trimChars text.toList := toList_trim text
  have hinterval := interval?_eq hread (trim text)
  have hcomparison := comparison?_eq hread (trim text)
  unfold classify Spec.ofText
  by_cases hempty : text.isEmpty = true
  · rw [if_pos hempty, if_pos hempty]
    rfl
  rw [if_neg hempty, if_neg hempty, Spec.ofShape?, ← htrimmed]
  cases hname : Shape.capture? (trim text).toList with
  | some name =>
      obtain ⟨found, hfound, hgroups⟩ := recognizes_capture.accepts hname
      have hgroup := hgroups 0 _ rfl
      simp only [hfound, hgroup, bind, Except.bind]
      rfl
  | none =>
      simp only [recognizes_capture.rejects hname, bind, Except.bind]
      cases hpattern : Shape.regex? (trim text).toList with
      | some pattern =>
          obtain ⟨found, hfound, hgroups⟩ := recognizes_regex.accepts hpattern
          have hgroup := hgroups 0 _ rfl
          simp only [hfound, hgroup]
          rfl
      | none =>
          simp only [recognizes_regex.rejects hpattern, hinterval, hcomparison]
          cases (Shape.interval? (trim text).toList).bind Spec.ofInterval? with
          | some spec => rfl
          | none => cases (Shape.comparison? (trim text).toList).bind Spec.ofComparison? <;> rfl

end

end CellGrading.Bytewise
