/-!
# Engines

Patterns belong to an engine: it says which texts are patterns and where they are
found.  Nothing else is asked of it.
-/

namespace CellGrading

namespace Pattern

/-- What patterns are compiled with.  It may refuse a pattern for any reason, be it
that the expression would get too large. -/
class Engine where
  /-- Whether the pattern is found in a text, if it is one. -/
  compile? (pattern : String) : Option (String → Bool)

structure Invalid where
  pattern : String
deriving DecidableEq, Repr

def Invalid.message (error : Invalid) : String :=
  "Invalid regular expression /" ++ error.pattern ++ "/"

def search [Engine] (pattern text : String) : Except Invalid Bool :=
  match Engine.compile? pattern with
  | some found => .ok (found text)
  | none => .error ⟨pattern⟩

end Pattern

end CellGrading
