import CellGrading.CommandLine.Running

/-!
# The command line

Reads the one file that a command may name and prints the reply to its arguments.
-/

open CellGrading CellGrading.CommandLine

def errorNumber (code : UInt32) : Nat :=
  if code.toNat < 0x80000000 then code.toNat else UInt32.size - code.toNat

def faultOfError : IO.Error → FileFault
  | .noFileOrDirectory _ code details => .ofNumber details (errorNumber code)
  | .permissionDenied _ code details => .ofNumber details (errorNumber code)
  | .inappropriateType _ code details => .ofNumber details (errorNumber code)
  | .invalidArgument _ code details => .ofNumber details (errorNumber code)
  | error => .ofNumber (toString error) 5

def readPath (path : String) : IO (Except FileFault ByteArray) := do
  try
    return .ok (← IO.FS.readBinFile path)
  catch error =>
    return .error (faultOfError error)

def fileOf (arguments : List String) : Option String :=
  match Command.ofArguments arguments with
  | .ok (.run file _) =>
      if (SuiteFormat.ofExtension? (Path.extension file)).isSome then some file else none
  | _ => none

def main (arguments : List String) : IO UInt32 := do
  let content ← match fileOf arguments with
    | some file => readPath file
    | none => pure (.error .notFound)
  let answer := reply (fun _ => content) arguments
  IO.print answer.output
  if let some complaint := answer.complaint then
    IO.eprintln ("error: " ++ complaint.message)
  return answer.exitCode.toUInt32
