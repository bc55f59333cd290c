import CellGrading.Text.Ranges

/-!
# Named sets of code points

A property of characters gives names to sets of code points.  A set may go by
several names; all are kept in lower case, without blanks, hyphens and
underscores, which is how a name is looked up.
-/

namespace CellGrading.Unicode

/-- A set of code points, listed as text, and the names it goes by. -/
structure NamedSet where
  names : List String
  table : String

namespace NamedSet

def ranges (set : NamedSet) : Text.Ranges := .ofText set.table

def find? (sets : List NamedSet) (name : String) : Option NamedSet :=
  List.find? (fun set => set.names.contains name) sets

end NamedSet

end CellGrading.Unicode
