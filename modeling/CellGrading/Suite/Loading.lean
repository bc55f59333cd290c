import CellGrading.File.Path
import CellGrading.File.Reading
import CellGrading.Record.Decoding
import CellGrading.Record.FromYaml

/-!
# Loading suites

A suite is loaded from a YAML or a JSON text, or from a file whose extension
tells which of the two it is.  Only a suite that is fit to be run is loaded.
-/

namespace CellGrading

/-! ## Errors -/

inductive LoadError where
  | unreadable (fault : FileFault)
  | malformedYaml
  | malformedJson (error : Json.DecodeError)
  | unfit (fault : SuiteFault)
  | unsupported (extension : String)
  deriving DecidableEq, Repr

namespace LoadError

/-- What is wrong; what a parser has to add to it is left out. -/
def message : LoadError → String
  | .unreadable fault => "Failed to read suite file: " ++ fault.message
  | .malformedYaml => "Failed to parse YAML"
  | .malformedJson _ => "Failed to parse JSON"
  | .unfit fault => "Suite validation failed: " ++ fault.message
  | .unsupported extension => "Unsupported suite file extension: " ++ extension

def cause? : LoadError → Option String
  | .unreadable fault => some fault.message
  | _ => none

end LoadError

/-! ## Formats -/

inductive SuiteFormat where
  | yaml
  | json
  deriving DecidableEq, Repr

def SuiteFormat.ofExtension? : String → Option SuiteFormat
  | "yaml" => some .yaml
  | "yml" => some .yaml
  | "json" => some .json
  | _ => none

/-! ## Texts -/

namespace Suite

def checked (suite : Suite) : Except LoadError Suite := suite.validated.mapError .unfit

def fromYaml (text : String) : Except LoadError Suite :=
  match Suite.ofYaml? text with
  | some suite => suite.checked
  | none => .error .malformedYaml

def fromJson (text : String) : Except LoadError Suite :=
  match Json.decode Suite.decode text with
  | .ok suite => suite.checked
  | .error error => .error (.malformedJson error)

def fromText : SuiteFormat → String → Except LoadError Suite
  | .yaml => fromYaml
  | .json => fromJson

/-! ## Files -/

def fromFile (read : FileReader) (format : SuiteFormat) (path : String) :
    Except LoadError Suite := do
  let text ← (read.text path).mapError .unreadable
  fromText format text

/-- Loads a suite from a file of the format that its extension tells.  A file of
another extension is not read. -/
def fromPath (read : FileReader) (path : String) : Except LoadError Suite :=
  match SuiteFormat.ofExtension? (Path.extension path) with
  | some format => fromFile read format path
  | none => .error (.unsupported (Path.extension path))

end Suite

end CellGrading
