import CellGrading.Pattern.Basic
import CellGrading.Proofs.Record.Range
import CellGrading.Proofs.Record.RoundTrip
import CellGrading.Proofs.Suite.Tally
import CellGrading.Proofs.Text.Stretch

/-!
# Suites written out and loaded

A suite is loaded from its own JSON as it is, if it has a case and every case has an
instruction; otherwise its first fault is reported.  Whatever a suite is loaded from,
it has none of these faults, and a report of it has an expectation.
-/

namespace CellGrading

open Json
open Json.Document

/-! ## Decoding what was encoded -/

theorem Case.decode_toJson {entry : Case} (h : entry.Fits) :
    Case.decode entry.toJson.document = .ok entry := by
  simp [toJson, Case.decode, readMember, ofFields, h.column, h.row]

theorem Suite.decode_toJson {suite : Suite} (h : suite.Fits) :
    Suite.decode suite.toJson.document = .ok suite := by
  have hcases := decodeList_document fun entry hentry => Case.decode_toJson (h entry hentry)
  simp [toJson, Suite.decode, readMember, hcases]

/-! ## Faults of suites -/

def Legible (text : String) : Prop := ∃ c ∈ text.toList, Text.isBlank c = false

instance : DecidablePred Legible := fun text =>
  decidable_of_iff (text.toList.any (fun c => !Text.isBlank c) = true) (by simp [Legible])

theorem isEmpty_trim_iff (text : String) :
    (Text.trim text).isEmpty = true ↔ ¬ Legible text := by
  rw [Text.trim, String.isEmpty_iff, ← String.toList_inj, String.toList_ofList,
    String.toList_empty, Text.trimChars_eq_nil_iff]
  simp [Legible, Text.Blanks]

theorem isEmpty_trim_of_legible {text : String} (h : Legible text) :
    (Text.trim text).isEmpty = false := by
  rw [Bool.eq_false_iff, ne_eq, isEmpty_trim_iff, not_not]
  exact h

namespace Suite

/-- There is a case, and every case has an instruction. -/
structure Sound (suite : Suite) : Prop where
  cases_ne_nil : suite.cases ≠ []
  legible : ∀ entry ∈ suite.cases, Legible entry.instructionId

instance : DecidablePred Sound := fun suite =>
  decidable_of_iff
    (suite.cases ≠ [] ∧ ∀ entry ∈ suite.cases, Legible entry.instructionId)
    ⟨fun h => ⟨h.1, h.2⟩, fun h => ⟨h.cases_ne_nil, h.legible⟩⟩

inductive HasFault (suite : Suite) : SuiteFault → Prop
  | noCases (h : suite.cases = []) : HasFault suite .noCases
  | blankInstruction {before after : List Case} {entry : Case}
      (hcases : suite.cases = before ++ entry :: after)
      (hbefore : ∀ earlier ∈ before, Legible earlier.instructionId)
      (hentry : ¬ Legible entry.instructionId) :
      HasFault suite (.blankInstruction before.length)

theorem sound_or_hasFault (suite : Suite) : suite.Sound ∨ ∃ fault, suite.HasFault fault := by
  by_cases hnil : suite.cases = []
  · exact .inr ⟨_, .noCases hnil⟩
  cases hfind : suite.cases.find? fun entry => decide (¬ Legible entry.instructionId) with
  | none =>
      refine .inl ⟨hnil, fun entry hentry => ?_⟩
      simpa using List.find?_eq_none.1 hfind entry hentry
  | some entry =>
      obtain ⟨hentry, before, after, hcases, hbefore⟩ := List.find?_eq_some_iff_append.1 hfind
      refine .inr ⟨_, .blankInstruction hcases ?_ (by simpa using hentry)⟩
      intro earlier hearlier
      simpa using hbefore earlier hearlier

variable {suite loaded : Suite} {fault : SuiteFault}

theorem fault?_of_sound (h : suite.Sound) : suite.fault? = none := by
  have hlegible : ∀ entry ∈ suite.cases, (Text.trim entry.instructionId).isEmpty = false :=
    fun entry hentry => isEmpty_trim_of_legible (h.legible entry hentry)
  rw [fault?, if_neg (by simpa using h.cases_ne_nil), List.findIdx?_eq_none_iff.2 hlegible,
    Option.map_none]

theorem fault?_of_hasFault (h : suite.HasFault fault) : suite.fault? = some fault := by
  cases h with
  | noCases hnil => simp [fault?, hnil]
  | @blankInstruction before after entry hcases hbefore hentry =>
      have hlegible : ∀ earlier ∈ before, (Text.trim earlier.instructionId).isEmpty = false :=
        fun earlier hearlier => isEmpty_trim_of_legible (hbefore earlier hearlier)
      have hblank := (isEmpty_trim_iff entry.instructionId).2 hentry
      simp [fault?, hcases, List.findIdx?_append, List.findIdx?_eq_none_iff.2 hlegible,
        List.findIdx?_cons, hblank]

theorem checked_eq (suite : Suite) : suite.checked =
    match suite.fault? with
    | some fault => .error (.unfit fault)
    | none => .ok suite := by
  rw [checked, validated]
  cases suite.fault? <;> rfl

theorem checked_eq_ok_iff : suite.checked = .ok loaded ↔ suite.Sound ∧ loaded = suite := by
  obtain hsound | ⟨fault, hfault⟩ := suite.sound_or_hasFault
  · simp [checked_eq, fault?_of_sound hsound, hsound, eq_comm]
  · have hnot : ¬ suite.Sound := by
      intro hsound
      cases (fault?_of_hasFault hfault).symm.trans (fault?_of_sound hsound)
    simp [checked_eq, fault?_of_hasFault hfault, hnot]

theorem checked_eq_error_iff {error : LoadError} :
    suite.checked = .error error ↔ ∃ fault, suite.HasFault fault ∧ error = .unfit fault := by
  constructor
  · intro herror
    obtain hsound | ⟨fault, hfault⟩ := suite.sound_or_hasFault
    · cases herror.symm.trans (checked_eq_ok_iff.2 ⟨hsound, rfl⟩)
    · rw [checked_eq, fault?_of_hasFault hfault] at herror
      exact ⟨fault, hfault, (Except.error.inj herror).symm⟩
  · rintro ⟨fault, hfault, rfl⟩
    rw [checked_eq, fault?_of_hasFault hfault]

/-! ## Loading -/

theorem fromJson_of_written {text : String} (hfits : suite.Fits)
    (htext : text = suite.toJson.compact ∨ text = suite.toJson.pretty) :
    fromJson text = suite.checked := by
  have hdecode : Json.decode Suite.decode text = .ok suite := by
    rcases htext with rfl | rfl
    · rw [decode_compact, decode_toJson hfits]
    · rw [decode_pretty, decode_toJson hfits]
  rw [fromJson, hdecode]

inductive Loaded (suite : Suite) : Prop
  | yaml {text : String} (h : fromYaml text = .ok suite)
  | json {text : String} (h : fromJson text = .ok suite)

theorem Loaded.sound (h : suite.Loaded) : suite.Sound := by
  have hchecked (found : Suite) (h : found.checked = .ok suite) : suite.Sound := by
    obtain ⟨hsound, rfl⟩ := checked_eq_ok_iff.1 h
    exact hsound
  cases h with
  | yaml h =>
      unfold fromYaml at h
      split at h
      next found _ => exact hchecked found h
      next => cases h
  | json h =>
      unfold fromJson at h
      split at h
      next found _ => exact hchecked found h
      next => cases h

theorem loaded_of_fromPath {read : FileReader} {path : String}
    (h : fromPath read path = .ok suite) : suite.Loaded := by
  unfold fromPath at h
  split at h
  next format _ =>
    obtain ⟨text, -, htext⟩ := except_bind_eq_ok_iff.1 h
    cases format with
    | yaml => exact .yaml htext
    | json => exact .json htext
  next => cases h

end Suite

/-! ## Reports -/

theorem gradeCases_instructionIds [Pattern.Engine] {symbols : SymbolTable} {tally : Tally}
    {cases : List Case} {report : Report} (h : gradeCases symbols tally cases = .ok report) :
    report.expectations.map Expectation.instructionId = cases.map Case.instructionId := by
  induction cases generalizing symbols tally report with
  | nil =>
      cases h
      rfl
  | cons entry rest ih =>
      obtain ⟨expectation, tail, hgrade, htail, rfl⟩ := gradeCases_cons_eq_ok_iff.1 h
      obtain ⟨verdict, -, rfl⟩ := Case.grade_eq_ok_iff.1 hgrade
      rw [List.map_cons, List.map_cons, ih htail]

namespace Suite

theorem Sound.total_pos [Pattern.Engine] {suite : Suite} (h : suite.Sound) {report : Report}
    (hrun : suite.run = .ok report) : 1 ≤ report.tally.total := by
  have htotal : report.tally.total = 0 + suite.cases.length := gradeCases_total hrun
  have hlength := List.length_pos_iff.2 h.cases_ne_nil
  omega

theorem Sound.legible_expectations [Pattern.Engine] {suite : Suite} (h : suite.Sound)
    {report : Report} (hrun : suite.run = .ok report) :
    ∀ expectation ∈ report.expectations, Legible expectation.instructionId := by
  intro expectation hexpectation
  have hmem := List.mem_map_of_mem (f := Expectation.instructionId) hexpectation
  rw [gradeCases_instructionIds hrun] at hmem
  obtain ⟨entry, hentry, heq⟩ := List.mem_map.1 hmem
  exact heq ▸ h.legible entry hentry

/-- The JSON of a suite is loaded as that suite if it is sound, and refused for its first
fault otherwise; cases are counted from zero.  Every suite that is loaded at all is sound,
so its reports count a case and name every instruction. -/
theorem load_serialized [Pattern.Engine] :
    (∀ (suite : Suite) (text : String), suite.Fits →
      text = suite.toJson.compact ∨ text = suite.toJson.pretty →
      (∀ loaded, fromJson text = .ok loaded ↔ suite.Sound ∧ loaded = suite) ∧
      (∀ error, fromJson text = .error error ↔
        ∃ fault, suite.HasFault fault ∧ error = .unfit fault)) ∧
    LoadError.message (.unfit .noCases) = "Suite validation failed: " ++ "suite has no cases" ∧
    (∀ index, LoadError.message (.unfit (.blankInstruction index)) =
      "Suite validation failed: " ++
        ("case " ++ toString index ++ " has an empty instruction_id")) ∧
    (∀ suite : Suite, suite.Loaded → suite.Sound ∧
      ∀ report, suite.run = .ok report → 1 ≤ report.tally.total ∧
        ∀ expectation ∈ report.expectations, Legible expectation.instructionId) ∧
    (∀ read path (suite : Suite), fromPath read path = .ok suite → suite.Loaded) := by
  refine ⟨?_, rfl, fun _ => rfl, ?_, fun _ _ _ => loaded_of_fromPath⟩
  · intro suite text hfits htext
    rw [fromJson_of_written hfits htext]
    exact ⟨fun _ => checked_eq_ok_iff, fun _ => checked_eq_error_iff⟩
  · intro suite hloaded
    have hsound := hloaded.sound
    refine ⟨hsound, fun report hrun => ?_⟩
    exact ⟨hsound.total_pos hrun, hsound.legible_expectations hrun⟩

def lastPosition (others : List Case) : Suite where
  symbols := .ofList [("X", "\"\n"), ("", "\\")]
  cases :=
    { instructionId := "\u3000a", column := 18446744073709551615, actual := "\x01" } :: others

theorem load_serialized_lastPosition :
    fromJson (lastPosition []).toJson.pretty = .ok (lastPosition []) ∧
      fromJson (lastPosition [⟨" \u3000\u0085", 0, 1, "", ""⟩]).toJson.compact =
        .error (.unfit (.blankInstruction 1)) ∧
      ∃ report, (lastPosition []).run = .ok report ∧ 1 ≤ report.tally.total := by
  obtain ⟨hjson, -, -, hloaded, -⟩ := load_serialized
  have hfits (others : List Case) (hothers : ∀ entry ∈ others, entry.Fits) :
      (lastPosition others).Fits := by
    intro entry hentry
    rcases List.mem_cons.1 hentry with rfl | hentry
    · constructor <;> decide
    · exact hothers entry hentry
  have hsound : (lastPosition []).Sound := by decide
  have hload := ((hjson _ _ (hfits [] nofun) (.inr rfl)).1 _).2 ⟨hsound, rfl⟩
  obtain ⟨report, hrun⟩ : ∃ report, (lastPosition []).run = .ok report := ⟨_, rfl⟩
  have hfault : (lastPosition [⟨" \u3000\u0085", 0, 1, "", ""⟩]).HasFault
      (.blankInstruction 1) := by
    refine @HasFault.blankInstruction _ [_] [] _ rfl ?_ ?_ <;> decide
  have hsmall : ∀ entry ∈ [Case.mk " \u3000\u0085" 0 1 "" ""], entry.Fits := by
    simp only [List.mem_singleton, forall_eq]
    constructor <;> decide
  refine ⟨hload, ?_, report, hrun, ((hloaded _ (.json hload)).2 report hrun).1⟩
  exact ((hjson _ _ (hfits _ hsmall) (.inl rfl)).2 _).2 ⟨_, hfault, rfl⟩

end Suite

end CellGrading
