import CellGrading.File.Reading

/-!
# Directories

A directory as a value: the files below it with the names that lead to them.  A
path is followed from the directory name by name, as a system does it.
-/

namespace CellGrading

inductive FileEntry where
  | file (content : ByteArray)
  | directory

/-- The entries below a directory, each with the names that lead to it.  All
directories on the way to an entry are there, too. -/
structure Directory where
  entries : List (List String × FileEntry)

namespace Directory

def entry? (directory : Directory) (names : List String) : Option FileEntry :=
  if names.isEmpty then some .directory
  else
    match directory.entries.lookup names with
    | some entry => some entry
    | none =>
        if directory.entries.any fun entry => names.isPrefixOf entry.1 then some .directory
        else none

def nameLimit : Nat := 255

/-- Follows the parts of a path from the place that `names` lead to; without
names, from somewhere above the directory, where nothing is known. -/
def follow (directory : Directory) :
    Option (List String) → List String → Except FileFault (Option (List String))
  | names, [] => .ok names
  | none, part :: rest =>
      if part = "" ∨ part = "." ∨ part = ".." then directory.follow none rest
      else throw .notFound
  | some names, part :: rest =>
      match directory.entry? names with
      | none => throw .notFound
      | some (.file _) => throw .notDirectory
      | some .directory =>
          if part = "" ∨ part = "." then directory.follow (some names) rest
          else if part = ".." then
            directory.follow (if names.isEmpty then none else some names.dropLast) rest
          else if nameLimit < part.utf8ByteSize then throw .nameTooLong
          else directory.follow (some (names ++ [part])) rest

def read (directory : Directory) : FileReader := fun path =>
  if path.toList.contains '\x00' then throw .nulInPath
  else if path.isEmpty then throw .notFound
  else do
    let parts := (path.toList.splitOn '/').map String.ofList
    match ← directory.follow (if path.toList.head? = some '/' then none else some []) parts with
    | none => throw .isDirectory
    | some names =>
        match directory.entry? names with
        | some (.file content) => return content
        | some .directory => throw .isDirectory
        | none => throw .notFound

def ofFiles (files : List (String × FileEntry)) : Directory where
  entries := files.map fun (path, entry) => ((path.splitOn "/").filter (· ≠ ""), entry)

end Directory

end CellGrading
