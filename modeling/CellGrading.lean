import CellGrading.Record.Decoding
import CellGrading.Record.Encoding
import CellGrading.Verdict.Markup
import CellGrading.CommandLine.Arguments
import CellGrading.CommandLine.Running
import CellGrading.File.Directory
import CellGrading.Main
import CellGrading.Proofs.Suite.Bindings
import CellGrading.Proofs.Suite.Reordering
import CellGrading.Proofs.Suite.Failure
import CellGrading.Proofs.Verdict.Numeric
import CellGrading.Proofs.Verdict.Markup
import CellGrading.Proofs.CommandLine.JsonOutput
import CellGrading.Proofs.Verdict.WellFormed
import CellGrading.Proofs.Verdict.MarkupReading
import CellGrading.Proofs.Verdict.Equality
import CellGrading.Proofs.Suite.Reference
import CellGrading.Proofs.CommandLine.SymbolArgument
import CellGrading.Proofs.CommandLine.Reply
import CellGrading.Proofs.Symbol.Reference
import CellGrading.Proofs.Verdict.MessageReading
import CellGrading.Proofs.Verdict.Noninterference
import CellGrading.Proofs.Verdict.Regrading
import CellGrading.Proofs.Verdict.EqualValues
import CellGrading.Proofs.Verdict.Comparison
import CellGrading.Proofs.Verdict.PlainText
import CellGrading.Proofs.Symbol.Substitution
import CellGrading.Proofs.Decimal.Reading
import CellGrading.Proofs.Verdict.Pattern
import CellGrading.Proofs.Suite.Serialization
import CellGrading.Proofs.CommandLine.ClassifyOutput
import CellGrading.Proofs.Suite.Layout
import CellGrading.Proofs.CommandLine.BoundName
import CellGrading.Proofs.Suite.Loading
import CellGrading.Proofs.Bytewise.Grading
import CellGrading.Proofs.Verdict.Precision
import CellGrading.Proofs.Symbol.History
