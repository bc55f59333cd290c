/-!
# Paths

A path is a text of names with slashes between them.  The extension of the file
that it names tells the format of the file.
-/

namespace CellGrading.Path

def parts (path : String) : List String :=
  ((path.toList.splitOn '/').map String.ofList).filter fun part => part ≠ "" ∧ part ≠ "."

/-- The name of the file at the end of a path; a path that ends by going up has none. -/
def fileName? (path : String) : Option String :=
  (parts path).getLast?.filter (· ≠ "..")

/-- The text behind the last dot, unless that dot is the first character or there
is none. -/
def extensionOfName? (name : List Char) : Option (List Char) :=
  let behind := (name.reverse.takeWhile (· ≠ '.')).reverse
  let before := (name.reverse.dropWhile (· ≠ '.')).drop 1
  if before.isEmpty then none else some behind

/-- The extension of a path in lower case; it is empty where there is none. -/
def extension (path : String) : String :=
  match fileName? path with
  | some name => .ofList (((extensionOfName? name.toList).getD []).map Char.toLower)
  | none => ""

end CellGrading.Path
