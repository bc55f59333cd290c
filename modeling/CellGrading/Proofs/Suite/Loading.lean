import CellGrading.Suite.Loading
import CellGrading.Proofs.File.Path

/-!
# Loading a suite from a file

The extension of a path decides alone how its file is read, and whether it is read at all.  A
file that holds a text is loaded as that text is.
-/

namespace CellGrading

/-! ## The text of a file -/

theorem FileReader.text_of_toUTF8 {read : FileReader} {path text : String}
    (h : read path = .ok text.toUTF8) : read.text path = .ok text := by
  have htext : String.fromUTF8? text.toUTF8 = some text := by
    unfold String.fromUTF8?
    rw [String.toUTF8_eq_toByteArray, dif_pos text.isValidUTF8]
    rfl
  simp only [FileReader.text, h, bind, Except.bind, htext]
  rfl

inductive FileReader.Fails (read : FileReader) (path : String) : FileFault → Prop where
  | unread {fault : FileFault} (h : read path = .error fault) : Fails read path fault
  | notText {bytes : ByteArray} (hread : read path = .ok bytes)
      (hbytes : String.fromUTF8? bytes = none) : Fails read path .notText

theorem FileReader.text_of_fails {read : FileReader} {path : String} {fault : FileFault}
    (h : read.Fails path fault) : read.text path = .error fault := by
  cases h with
  | unread h =>
      simp only [FileReader.text, h]
      rfl
  | notText hread hbytes =>
      simp only [FileReader.text, hread, bind, Except.bind, hbytes]
      rfl

namespace Suite

theorem fromFile_eq_fromText {read : FileReader} {path text : String} (format : SuiteFormat)
    (h : read path = .ok text.toUTF8) : fromFile read format path = fromText format text := by
  simp only [fromFile, FileReader.text_of_toUTF8 h]
  rfl

theorem fromFile_of_fails {read : FileReader} {path : String} {fault : FileFault}
    (format : SuiteFormat) (h : read.Fails path fault) :
    fromFile read format path = .error (.unreadable fault) := by
  simp only [fromFile, FileReader.text_of_fails h]
  rfl

/-! ## Dispatch -/

theorem fromPath_eq_fromText {read : FileReader} {path text : String} {format : SuiteFormat}
    (hformat : SuiteFormat.ofExtension? (Path.extension path) = some format)
    (hread : read path = .ok text.toUTF8) : fromPath read path = fromText format text := by
  simp only [fromPath, hformat, fromFile_eq_fromText format hread]

theorem fromPath_of_hasExtension (read : FileReader) {path extension : String}
    (h : Path.HasExtension path extension) :
    fromPath read path =
      if extension = "yaml" ∨ extension = "yml" then fromFile read .yaml path
      else if extension = "json" then fromFile read .json path
      else .error (.unsupported extension) := by
  rw [fromPath, Path.extension_of_hasExtension h]
  by_cases hyaml : extension = "yaml"
  · subst hyaml; rfl
  by_cases hyml : extension = "yml"
  · subst hyml; rfl
  by_cases hjson : extension = "json"
  · subst hjson; rfl
  have hnone : SuiteFormat.ofExtension? extension = none := by
    unfold SuiteFormat.ofExtension?
    split <;> simp_all
  rw [hnone, if_neg (by simp [hyaml, hyml]), if_neg hjson]

/-- A path has one extension, and no other thing about the path or the files decides between
the formats: another extension is named in the error whatever the files are, and under one of
the three the path is loaded, or fails to be, as a file of that format. -/
theorem fromPath_dispatch (path : String) :
    ∃ extension, (∀ other, Path.HasExtension path other ↔ other = extension) ∧
      ∀ read : FileReader,
        (fromPath read path =
          if extension = "yaml" ∨ extension = "yml" then fromFile read .yaml path
          else if extension = "json" then fromFile read .json path
          else .error (.unsupported extension)) ∧
        (∀ format fault, read.Fails path fault →
          fromFile read format path = .error (.unreadable fault)) ∧
        ∀ format text, read path = .ok text.toUTF8 →
          fromFile read format path = fromText format text := by
  obtain ⟨extension, hextension⟩ := Path.exists_hasExtension path
  have hunique : ∀ other, Path.HasExtension path other ↔ other = extension := by
    intro other
    rw [← Path.extension_eq_iff, Path.extension_of_hasExtension hextension, eq_comm]
  exact ⟨extension, hunique, fun read => ⟨fromPath_of_hasExtension read hextension,
    fun format _ hfails => fromFile_of_fails format hfails,
    fun format _ htext => fromFile_eq_fromText format htext⟩⟩

example : Path.extension "tables/.old/Prices.v2.YAML/./" = "yaml" := by decide +kernel

end Suite

end CellGrading
