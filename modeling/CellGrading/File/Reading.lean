/-!
# Reading files

What is known of the files of a system is what reading each path gives: its
bytes, or a fault.  A text file holds UTF-8.
-/

namespace CellGrading

inductive FileFault where
  | notFound
  | accessDenied
  | notDirectory
  | isDirectory
  | nameTooLong
  /-- The path holds a NUL character. -/
  | nulInPath
  | notText
  /-- A fault that the system describes, with its number. -/
  | system (description : String) (number : Nat)
  deriving DecidableEq, Repr

def systemMessage (description : String) (number : Nat) : String :=
  description ++ " (os error " ++ toString number ++ ")"

def FileFault.ofNumber (description : String) : Nat → FileFault
  | 2 => .notFound
  | 13 => .accessDenied
  | 20 => .notDirectory
  | 21 => .isDirectory
  | 36 => .nameTooLong
  | number => .system description number

def FileFault.message : FileFault → String
  | .notFound => systemMessage "No such file or directory" 2
  | .accessDenied => systemMessage "Permission denied" 13
  | .notDirectory => systemMessage "Not a directory" 20
  | .isDirectory => systemMessage "Is a directory" 21
  | .nameTooLong => systemMessage "File name too long" 36
  | .nulInPath => "file name contained an unexpected NUL byte"
  | .notText => "stream did not contain valid UTF-8"
  | .system description number => systemMessage description number

abbrev FileReader := String → Except FileFault ByteArray

def FileReader.text (read : FileReader) (path : String) : Except FileFault String := do
  match String.fromUTF8? (← read path) with
  | some text => return text
  | none => throw .notText

end CellGrading
