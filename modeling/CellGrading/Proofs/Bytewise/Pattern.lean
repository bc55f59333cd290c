import CellGrading.Proofs.Bytewise.Row
import CellGrading.Proofs.Spec.Classification

/-!
# The patterns of cells

The shapes of cells as patterns.  Each is written out, means a row of parts, and matches the
texts of its shape: where it matches, its groups hold the parts that the recogniser of the
shape finds.
-/

namespace CellGrading.Bytewise

open Text Pattern

/-! ## Patterns as texts -/

def numberText : String := "[-+]?(?:[0-9]+(?:\\.[0-9]*)?|\\.[0-9]+)"

def numberPattern : String := "^" ++ numberText ++ "$"

def capturePattern : String := "^\\$([A-Za-z]\\w*)=$"

def regexPattern : String := "(?s)^=~/(.*)/$"

def intervalPattern : String :=
  "^(" ++ numberText ++ ")\\s*(<=|<)\\s*_\\s*(<=|<)\\s*(" ++ numberText ++ ")$"

def comparisonPattern : String := "^(!?)(<=|>=|~=|<|>|=)\\s*(" ++ numberText ++ ")$"

def symbolPattern : String := "\\$([A-Za-z]\\w*)"

/-! ## Sets of characters -/

theorem has_between (low high c : Char) :
    (CharSet.between low high).has c.toNat = true ↔ low.toNat ≤ c.toNat ∧ c.toNat ≤ high.toNat := by
  simp [CharSet.between, CharSet.has, Ranges.has]

theorem has_digit (c : Char) : (CharSet.between '0' '9').has c.toNat = true ↔ c.isDigit = true := by
  rw [has_between, Char.isDigit_iff_toNat]

def letters : CharSet := .union (.between 'A' 'Z') (.union (.between 'a' 'z') .empty)

theorem isAlpha_iff_toNat (c : Char) : c.isAlpha = true ↔
    'A'.toNat ≤ c.toNat ∧ c.toNat ≤ 'Z'.toNat ∨ 'a'.toNat ≤ c.toNat ∧ c.toNat ≤ 'z'.toNat := by
  have halpha : c.isAlpha = (decide ('A'.val ≤ c.val ∧ c.val ≤ 'Z'.val) ||
      (decide ('a'.val ≤ c.val) && decide (c.val ≤ 'z'.val))) := rfl
  simp only [halpha, Bool.or_eq_true, Bool.and_eq_true, decide_eq_true_eq,
    UInt32.le_iff_toNat_le]
  rfl

theorem has_letters (c : Char) : letters.has c.toNat = true ↔ c.isAlpha = true := by
  simp only [letters, CharSet.has, CharSet.has_empty, Bool.or_false, Bool.or_eq_true, has_between,
    isAlpha_iff_toNat]

set_option maxRecDepth 100000 in
theorem wordRanges_beyond_ascii :
    wordRanges.all (fun range => decide (0x80 ≤ range.1)) = true := by
  rw [wordRanges, Ranges.ofText, wordTable, String.toList_ofList]
  decide +kernel

theorem has_asciiWord (c : Char) : CharSet.asciiWord.has c.toNat = isAsciiWord c := by
  rw [Bool.eq_iff_iff]
  have hunderscore : c = '_' ↔ c.toNat = '_'.toNat := Char.toNat_inj.symm
  simp only [CharSet.asciiWord, CharSet.has, Ranges.has, List.any_cons, List.any_nil,
    Bool.or_false, isAsciiWord, Char.isAlphanum, isAlpha_iff_toNat, Char.isDigit_iff_toNat,
    Bool.or_eq_true, Bool.and_eq_true, decide_eq_true_eq, beq_iff_eq, hunderscore]
  simp only [Char.reduceToNat]
  omega

theorem has_word (c : Char) : CharSet.word.has c.toNat = isWord c := by
  rw [CharSet.word, CharSet.has, has_asciiWord, isWord]
  split
  · next hascii =>
      have hnone : wordRanges.has c.toNat = false := by
        rw [Bool.eq_false_iff, ne_eq, Ranges.has_iff]
        rintro ⟨range, hrange, hle, -⟩
        have hlow := of_decide_eq_true (List.all_eq_true.1 wordRanges_beyond_ascii range hrange)
        omega
      rw [CharSet.has, hnone, Bool.or_false]
  · next hbeyond =>
      have hnone : CharSet.asciiWord.has c.toNat = false := by
        simp only [CharSet.asciiWord, CharSet.has, Ranges.has, List.any_cons, List.any_nil,
          Bool.or_false, Bool.or_eq_false_iff, Bool.and_eq_false_iff, decide_eq_false_iff_not]
        omega
      rw [← has_asciiWord, hnone, Bool.false_or, CharSet.has]

/-! ## Expressions without groups -/

def signRegex : Regex :=
  .repetition (.set (.union (.single '-') (.union (.single '+') .empty))) 0 (some 1)

def digit : CharSet := .between '0' '9'

def magnitudeRegex : Regex :=
  .alt
    (.seq (.repetition (.set digit) 1 none)
      (.repetition (.seq (.set (.single '.')) (.repetition (.set digit) 0 none)) 0 (some 1)))
    (.seq (.set (.single '.')) (.repetition (.set digit) 1 none))

def numberRegex : Regex := .seq signRegex magnitudeRegex

def blanksRegex : Regex := .repetition (.set .space) 0 none

def boundRegex : Regex := .alt (.seq (.set (.single '<')) (.set (.single '='))) (.set (.single '<'))

def comparatorRegex : Regex :=
  .alt (.seq (.set (.single '<')) (.set (.single '=')))
    (.alt (.seq (.set (.single '>')) (.set (.single '=')))
      (.alt (.seq (.set (.single '~')) (.set (.single '=')))
        (.alt (.set (.single '<')) (.alt (.set (.single '>')) (.set (.single '='))))))

def nameRegex : Regex := .seq (.set letters) (.repetition (.set .word) 0 none)

theorem spells_sign : signRegex.Spells fun piece => ∃ negative, piece ∈ Numeral.signs negative := by
  refine (Regex.Spells.set _).optional.mono fun piece => ?_
  simp only [CharSet.has, CharSet.has_single, CharSet.has_empty, Bool.or_false, Bool.or_eq_true]
  constructor
  · rintro (rfl | ⟨c, rfl, rfl | rfl⟩)
    · exact ⟨false, by simp [Numeral.signs]⟩
    · exact ⟨true, by simp [Numeral.signs]⟩
    · exact ⟨false, by simp [Numeral.signs]⟩
  · rintro ⟨_ | _, hpiece⟩
    · rcases List.mem_pair.1 hpiece with rfl | rfl
      · exact .inl rfl
      · exact .inr ⟨'+', rfl, .inr rfl⟩
    · obtain rfl := List.mem_singleton.1 hpiece
      exact .inr ⟨'-', rfl, .inl rfl⟩

def IsMagnitude (piece : List Char) : Prop :=
  ∃ numeral : Numeral, numeral.WellFormed ∧ piece = numeral.unsigned

theorem spells_magnitude : magnitudeRegex.Spells IsMagnitude := by
  have hwhole := (Regex.Spells.plus digit).seq
    ((Regex.Spells.single '.').seq (Regex.Spells.star digit)).optional
  have hbare := (Regex.Spells.single '.').seq (Regex.Spells.plus digit)
  refine (hwhole.alt hbare).mono fun piece => ?_
  simp only [digit, has_digit]
  constructor
  · rintro (⟨whole, _, rfl, ⟨hne, hwhole⟩, rfl | ⟨_, fraction, rfl, rfl, hfraction⟩⟩ |
      ⟨_, fraction, rfl, rfl, hne, hfraction⟩)
    · exact ⟨⟨false, whole, none⟩, ⟨hwhole, by simp, .inl hne⟩, by simp [Numeral.unsigned]⟩
    · refine ⟨⟨false, whole, some fraction⟩, ⟨hwhole, ?_, .inl hne⟩, rfl⟩
      rintro _ ⟨⟩
      exact hfraction
    · refine ⟨⟨false, [], some fraction⟩, ⟨by simp, ?_, .inr ⟨fraction, rfl, hne⟩⟩, rfl⟩
      rintro _ ⟨⟩
      exact hfraction
  · rintro ⟨⟨negative, whole, fraction⟩, ⟨hwhole, hfraction, hdigits⟩, rfl⟩
    cases fraction with
    | none =>
        have hne : whole ≠ [] := by simpa using hdigits
        exact .inl ⟨whole, [], by simp [Numeral.unsigned], ⟨hne, hwhole⟩, .inl rfl⟩
    | some fraction =>
        by_cases hne : whole = []
        · subst hne
          have hdigits : fraction ≠ [] := by simpa using hdigits
          exact .inr ⟨['.'], fraction, rfl, rfl, hdigits, hfraction fraction rfl⟩
        · exact .inl ⟨whole, '.' :: fraction, rfl, ⟨hne, hwhole⟩,
            .inr ⟨['.'], fraction, rfl, rfl, hfraction fraction rfl⟩⟩

theorem isLiteral_iff (piece : List Char) :
    Numeral.IsLiteral piece ↔ ∃ sign magnitude, piece = sign ++ magnitude ∧
      (∃ negative, sign ∈ Numeral.signs negative) ∧ IsMagnitude magnitude := by
  constructor
  · rintro ⟨numeral, hwell, sign, hsign, rfl⟩
    exact ⟨sign, _, rfl, ⟨_, hsign⟩, numeral, hwell, rfl⟩
  · rintro ⟨sign, _, rfl, ⟨negative, hsign⟩, numeral, ⟨hwhole, hfraction, hdigits⟩, rfl⟩
    exact ⟨{ numeral with negative := negative }, ⟨hwhole, hfraction, hdigits⟩, sign, hsign, rfl⟩

theorem spells_number : numberRegex.Spells Numeral.IsLiteral :=
  (spells_sign.seq spells_magnitude).mono fun piece => (isLiteral_iff piece).symm

theorem spells_blanks : blanksRegex.Spells Blanks := .star .space

theorem spells_pair (c d : Char) :
    (Regex.seq (.set (.single c)) (.set (.single d))).Spells (· = [c, d]) := by
  refine ((Regex.Spells.single c).seq (Regex.Spells.single d)).mono fun piece => ?_
  constructor
  · rintro ⟨_, _, rfl, rfl, rfl⟩
    rfl
  · rintro rfl
    exact ⟨[c], [d], rfl, rfl, rfl⟩

theorem spells_bound : boundRegex.Spells fun piece => ∃ op : BoundOp, piece = op.symbol.toList := by
  refine ((spells_pair '<' '=').alt (.single '<')).mono fun piece => ?_
  constructor
  · rintro (rfl | rfl)
    · exact ⟨.le, rfl⟩
    · exact ⟨.lt, rfl⟩
  · rintro ⟨_ | _, rfl⟩
    · exact .inr rfl
    · exact .inl rfl

theorem spells_comparator :
    comparatorRegex.Spells fun piece =>
      ∃ comparator : Shape.Comparator, piece = comparator.symbol.toList := by
  refine ((spells_pair '<' '=').alt ((spells_pair '>' '=').alt ((spells_pair '~' '=').alt
    (((Regex.Spells.single '<').alt ((Regex.Spells.single '>').alt (.single '='))))))).mono
      fun piece => ?_
  constructor
  · rintro (rfl | rfl | rfl | rfl | rfl | rfl)
    · exact ⟨.exact .le, rfl⟩
    · exact ⟨.exact .ge, rfl⟩
    · exact ⟨.rounded, rfl⟩
    · exact ⟨.exact .lt, rfl⟩
    · exact ⟨.exact .gt, rfl⟩
    · exact ⟨.exact .eq, rfl⟩
  · rintro ⟨(op | _), rfl⟩
    · cases op with
      | lt => exact .inr (.inr (.inr (.inl rfl)))
      | le => exact .inl rfl
      | gt => exact .inr (.inr (.inr (.inr (.inl rfl))))
      | ge => exact .inr (.inl rfl)
      | eq => exact .inr (.inr (.inr (.inr (.inr rfl))))
    · exact .inr (.inr (.inl rfl))

theorem spells_mark :
    (Regex.repetition (.set (.single '!')) 0 (some 1)).Spells fun piece =>
      ∃ negated, piece = Form.mark negated := by
  refine (Regex.Spells.single '!').optional.mono fun piece => ?_
  constructor
  · rintro (rfl | rfl)
    · exact ⟨false, rfl⟩
    · exact ⟨true, rfl⟩
  · rintro ⟨_ | _, rfl⟩
    · exact .inl rfl
    · exact .inr rfl

theorem spells_name : nameRegex.Spells IsName := by
  refine ((Regex.Spells.set letters).seq (.star .word)).mono fun piece => ?_
  simp only [has_letters, has_word]
  constructor
  · rintro ⟨_, rest, rfl, ⟨c, rfl, hc⟩, hrest⟩
    exact ⟨c, rest, rfl, hc, hrest⟩
  · rintro ⟨c, rest, rfl, hc, hrest⟩
    exact ⟨[c], rest, rfl, ⟨c, rfl, hc⟩, hrest⟩

theorem spells_any : (Regex.repetition (.set (.compl .empty)) 0 none).Spells fun _ => True :=
  (Regex.Spells.star _).mono fun piece => by simp [CharSet.has]

/-! ## Rows -/

def numberParts : List Part :=
  [.textStart, .plain spells_sign, .plain spells_magnitude, .textEnd]

def captureParts : List Part :=
  [.textStart, .plain (.single '$'), .group spells_name, .plain (.single '='), .textEnd]

def regexParts : List Part :=
  [.plain .empty, .textStart, .plain (.single '='), .plain (.single '~'), .plain (.single '/'),
    .group spells_any, .plain (.single '/'), .textEnd]

def intervalParts : List Part :=
  [.textStart, .group spells_number, .plain spells_blanks, .group spells_bound,
    .plain spells_blanks, .plain (.single '_'), .plain spells_blanks, .group spells_bound,
    .plain spells_blanks, .group spells_number, .textEnd]

def comparisonParts : List Part :=
  [.textStart, .group spells_mark, .group spells_comparator, .plain spells_blanks,
    .group spells_number, .textEnd]

section

set_option maxRecDepth 100000

theorem compile?_number : compile? numberPattern = some (Part.row numberParts) := rfl

theorem compile?_capture : compile? capturePattern = some (Part.row captureParts) := rfl

theorem compile?_regex : compile? regexPattern = some (Part.row regexParts) := rfl

theorem compile?_interval : compile? intervalPattern = some (Part.row intervalParts) := rfl

theorem compile?_comparison : compile? comparisonPattern = some (Part.row comparisonParts) := rfl

end

/-! ## Matches of a pattern -/

/-- The pattern matches the texts that the recogniser accepts and no others, and its groups hold
what is in the parts that are found. -/
structure Recognizes {α : Type} (pattern : String) (recognizer : List Char → Option α)
    (groups : α → List String) : Prop where
  rejects : ∀ {text : String}, recognizer text.toList = none →
    firstMatch? pattern text = .ok none
  accepts : ∀ {text : String} {parts : α}, recognizer text.toList = some parts →
    ∃ found, firstMatch? pattern text = .ok (some found) ∧
      ∀ index piece, (groups parts)[index]? = some piece →
        found.group text (index + 1) = .ok piece

theorem recognizes_of_row {α : Type} {pattern : String} {row : List Part}
    {recognizer : List Char → Option α} {groups : α → List String}
    (hcompile : compile? pattern = some (Part.row row)) (hstart : Part.textStart ∈ row)
    (hreads : ∀ pieces rest, Part.Reads row [] pieces rest →
      ∃ parts, recognizer (pieces.flatten ++ rest) = some parts ∧
        groups parts = (Part.grouped row pieces).map String.ofList)
    (haccepts : ∀ text parts, recognizer text = some parts →
      ∃ pieces rest, Part.Reads row [] pieces rest ∧ text = pieces.flatten ++ rest) :
    Recognizes pattern recognizer groups := by
  have hfirst (text : String) :
      firstMatch? pattern text = .ok ((Part.row row).matchAt? [] text.toList) := by
    simp only [firstMatch?, allMatches, hcompile, Part.matchesFrom_eq_toList hstart]
    cases (Part.row row).matchAt? [] text.toList <;> rfl
  constructor
  · intro text hnone
    rw [hfirst]
    cases hat : (Part.row row).matchAt? [] text.toList with
    | none => rfl
    | some found =>
        obtain ⟨pieces, rest, hpieces, htext, -⟩ := Part.exists_pieces_of_matchAt? hat
        obtain ⟨parts, hparts, -⟩ := hreads pieces rest hpieces
        rw [htext, hparts] at hnone
        cases hnone
  · intro text parts hparts
    obtain ⟨pieces, rest, hpieces, htext⟩ := haccepts _ _ hparts
    have hsome := Part.matchAt?_isSome_of_reads hpieces
    rw [← htext] at hsome
    obtain ⟨found, hat⟩ := Option.isSome_iff_exists.1 hsome
    refine ⟨found, by rw [hfirst, hat], ?_⟩
    obtain ⟨pieces, rest, hpieces, htext, hgroups⟩ := Part.exists_pieces_of_matchAt? hat
    obtain ⟨parts', hparts', hgrouped⟩ := hreads pieces rest hpieces
    rw [← htext, hparts, Option.some.injEq] at hparts'
    subst hparts'
    intro index piece hpiece
    rw [hgrouped, List.getElem?_map, Option.map_eq_some_iff] at hpiece
    obtain ⟨chars, hchars, rfl⟩ := hpiece
    exact hgroups index chars hchars

theorem recognizes_number : Recognizes numberPattern Numeral.read? fun _ => [] := by
  refine recognizes_of_row compile?_number (by simp [numberParts]) ?_ ?_
  · intro pieces rest h
    obtain _ | ⟨⟨-, rfl⟩, h⟩ := h
    obtain _ | ⟨hsign, h⟩ := h
    obtain _ | ⟨hmagnitude, h⟩ := h
    obtain ⟨rfl, rfl⟩ := h.eq_nil_of_textEnd
    obtain ⟨numeral, hspells⟩ := (isLiteral_iff _).2 ⟨_, _, rfl, hsign, hmagnitude⟩
    refine ⟨numeral, ?_, rfl⟩
    simpa using (Numeral.read?_eq_some_iff _ _).2 hspells
  · intro text numeral h
    obtain ⟨sign, magnitude, rfl, hsign, hmagnitude⟩ :=
      (isLiteral_iff text).1 ⟨numeral, (Numeral.read?_eq_some_iff _ _).1 h⟩
    refine ⟨[[], sign, magnitude, []], [], ?_, by simp⟩
    exact .cons ⟨rfl, rfl⟩ (.cons hsign (.cons hmagnitude (.cons ⟨rfl, rfl⟩ .nil)))

theorem recognizes_capture :
    Recognizes capturePattern Shape.capture? fun name => [.ofList name] := by
  refine recognizes_of_row compile?_capture (by simp [captureParts]) ?_ ?_
  · intro pieces rest h
    obtain _ | ⟨⟨-, rfl⟩, h⟩ := h
    obtain _ | ⟨rfl, h⟩ := h
    obtain _ | ⟨hname, h⟩ := h
    obtain _ | ⟨rfl, h⟩ := h
    obtain ⟨rfl, rfl⟩ := h.eq_nil_of_textEnd
    refine ⟨_, (Shape.capture?_eq_some_iff _ _).2 ⟨hname, ?_⟩, rfl⟩
    simp [Form.chars]
  · intro text name h
    obtain ⟨hname, rfl⟩ := (Shape.capture?_eq_some_iff text name).1 h
    refine ⟨[[], ['$'], name, ['='], []], [], ?_, by simp [Form.chars]⟩
    exact .cons ⟨rfl, rfl⟩ (.cons rfl (.cons hname (.cons rfl (.cons ⟨rfl, rfl⟩ .nil))))

theorem recognizes_regex :
    Recognizes regexPattern Shape.regex? fun pattern => [.ofList pattern] := by
  refine recognizes_of_row compile?_regex (by simp [regexParts]) ?_ ?_
  · intro pieces rest h
    obtain _ | ⟨rfl, h⟩ := h
    obtain _ | ⟨⟨-, rfl⟩, h⟩ := h
    obtain _ | ⟨rfl, h⟩ := h
    obtain _ | ⟨rfl, h⟩ := h
    obtain _ | ⟨rfl, h⟩ := h
    obtain _ | ⟨-, h⟩ := h
    obtain _ | ⟨rfl, h⟩ := h
    obtain ⟨rfl, rfl⟩ := h.eq_nil_of_textEnd
    refine ⟨_, (Shape.regex?_eq_some_iff _ _).2 ?_, rfl⟩
    simp [Form.chars]
  · intro text pattern h
    obtain rfl := (Shape.regex?_eq_some_iff text pattern).1 h
    refine ⟨[[], [], ['='], ['~'], ['/'], pattern, ['/'], []], [], ?_, by simp [Form.chars]⟩
    exact .cons rfl (.cons ⟨rfl, rfl⟩ (.cons rfl (.cons rfl (.cons rfl (.cons trivial
      (.cons rfl (.cons ⟨rfl, rfl⟩ .nil)))))))

theorem recognizes_interval :
    Recognizes intervalPattern Shape.interval? fun parts =>
      [.ofList parts.low, parts.lowOp.symbol, parts.highOp.symbol, .ofList parts.high] := by
  refine recognizes_of_row compile?_interval (by simp [intervalParts]) ?_ ?_
  · intro pieces rest h
    obtain _ | ⟨⟨-, rfl⟩, h⟩ := h
    obtain _ | ⟨hlow, h⟩ := h
    obtain _ | ⟨h₁, h⟩ := h
    obtain _ | ⟨⟨lowOp, rfl⟩, h⟩ := h
    obtain _ | ⟨h₂, h⟩ := h
    obtain _ | ⟨rfl, h⟩ := h
    obtain _ | ⟨h₃, h⟩ := h
    obtain _ | ⟨⟨highOp, rfl⟩, h⟩ := h
    obtain _ | ⟨h₄, h⟩ := h
    obtain _ | ⟨hhigh, h⟩ := h
    obtain ⟨rfl, rfl⟩ := h.eq_nil_of_textEnd
    refine ⟨⟨_, lowOp, highOp, _⟩, (Shape.interval?_eq_some_iff _ _).2
      ⟨_, _, _, _, ⟨hlow, hhigh, h₁, h₂, h₃, h₄⟩, ?_⟩, ?_⟩
    · simp [Form.chars]
    · simp [Part.grouped, intervalParts]
  · rintro text ⟨low, lowOp, highOp, high⟩ h
    obtain ⟨gap₁, gap₂, gap₃, gap₄, ⟨hlow, hhigh, h₁, h₂, h₃, h₄⟩, rfl⟩ :=
      (Shape.interval?_eq_some_iff text _).1 h
    refine ⟨[[], low, gap₁, lowOp.symbol.toList, gap₂, ['_'], gap₃, highOp.symbol.toList, gap₄,
      high, []], [], ?_, by simp [Form.chars]⟩
    exact .cons ⟨rfl, rfl⟩ (.cons hlow (.cons h₁ (.cons ⟨lowOp, rfl⟩ (.cons h₂ (.cons rfl
      (.cons h₃ (.cons ⟨highOp, rfl⟩ (.cons h₄ (.cons hhigh (.cons ⟨rfl, rfl⟩ .nil))))))))))

theorem recognizes_comparison :
    Recognizes comparisonPattern Shape.comparison? fun parts =>
      [.ofList (Form.mark parts.negated), parts.comparator.symbol, .ofList parts.operand] := by
  refine recognizes_of_row compile?_comparison (by simp [comparisonParts]) ?_ ?_
  · intro pieces rest h
    obtain _ | ⟨⟨-, rfl⟩, h⟩ := h
    obtain _ | ⟨⟨negated, rfl⟩, h⟩ := h
    obtain _ | ⟨⟨comparator, rfl⟩, h⟩ := h
    obtain _ | ⟨hgap, h⟩ := h
    obtain _ | ⟨hoperand, h⟩ := h
    obtain ⟨rfl, rfl⟩ := h.eq_nil_of_textEnd
    refine ⟨⟨negated, comparator, _⟩, (Shape.comparison?_eq_some_iff _ _).2
      ⟨_, ⟨hgap, hoperand⟩, ?_⟩, ?_⟩
    · simp [Form.chars]
    · simp [Part.grouped, comparisonParts]
  · rintro text ⟨negated, comparator, operand⟩ h
    obtain ⟨gap, ⟨hgap, hoperand⟩, rfl⟩ := (Shape.comparison?_eq_some_iff text _).1 h
    refine ⟨[[], Form.mark negated, comparator.symbol.toList, gap, operand, []], [], ?_,
      by simp [Form.chars]⟩
    exact .cons ⟨rfl, rfl⟩ (.cons ⟨negated, rfl⟩ (.cons ⟨comparator, rfl⟩ (.cons hgap
      (.cons hoperand (.cons ⟨rfl, rfl⟩ .nil)))))

end CellGrading.Bytewise
