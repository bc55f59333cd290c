import CellGrading.Pattern.Engine
import CellGrading.Pattern.Meaning
import CellGrading.Pattern.Reader
import CellGrading.Pattern.Search

/-!
# Patterns

A pattern is a text that means a regular expression.  It is searched for
anywhere in another text.
-/

namespace CellGrading

namespace Pattern

/-- The expression of a pattern, if the text is one. -/
def compile? (pattern : String) : Option Regex := do
  let tree ← Tree.read? pattern.toList
  let (regex, _) ← tree.meaning? {}
  return regex

/-- Expressions may be of any size. -/
instance : Engine where
  compile? pattern := (compile? pattern).map fun regex text => regex.search text.toList

theorem search_eq_of_compile? {pattern : String} {regex : Regex}
    (h : compile? pattern = some regex) (text : String) :
    search pattern text = .ok (regex.search text.toList) := by
  simp [search, Engine.compile?, h]

end Pattern

end CellGrading
