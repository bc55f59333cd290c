import CellGrading.Verdict.Basic

/-!
# Verdicts as markup

A verdict is shown as one `span` element with the outcome as its class.  Text
from cells is escaped, so that it cannot open or close an element.
-/

namespace CellGrading.Markup

/-! ## Escaping -/

def escapeChar : Char → List Char
  | '&' => "&amp;".toList
  | '<' => "&lt;".toList
  | '>' => "&gt;".toList
  | '"' => "&quot;".toList
  | c => [c]

def escape (text : String) : String := .ofList (text.toList.flatMap escapeChar)

def span (outcome : Outcome) (text : String) : String :=
  "<span class=\"" ++ outcome.name ++ "\">" ++ escape text ++ "</span>"

/-! ## Rendering -/

def wrapped? (opening message : List Char) : Option (List Char) :=
  if opening.isPrefixOf message then
    let rest := message.drop opening.length
    if rest.getLast? = some ')' then some rest.dropLast else none
  else none

/-- The text inside `opening ... )`, or the whole message if it has another form. -/
def payload (opening message : String) : String :=
  match wrapped? opening.toList message.toList with
  | some inner => .ofList inner
  | none => message

/-- The verdict as an element.  A plain failure shows the actual text in front of
it; a value that is only reported shows itself. -/
def render (verdict : Verdict) : String :=
  match verdict.outcome, verdict.kind with
  | .fail, .plain =>
      "[" ++ escape verdict.actual ++ "] " ++
        span .fail ("expected [" ++ verdict.expected ++ "]")
  | .pass, _ => span .pass (payload "pass(" verdict.message)
  | .fail, _ => span .fail (payload "fail(" verdict.message)
  | .ignore, .blank => span .ignore verdict.actual
  | .ignore, _ => span .ignore verdict.message

end CellGrading.Markup
