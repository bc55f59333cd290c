/-!
# JSON values and their text

A value is written on one line, or over several lines with two blanks for each
level.  Only quotes, backslashes and control characters are escaped.
-/

namespace CellGrading.Json

/-- A value to be written; the members of an object stand in their order. -/
inductive Value where
  | null
  | bool (value : Bool)
  | nat (value : Nat)
  | string (text : String)
  | array (items : List Value)
  | object (members : List (String × Value))

/-! ## Strings -/

def escapeChar (c : Char) : List Char :=
  match c with
  | '"' => ['\\', '"']
  | '\\' => ['\\', '\\']
  | '\x08' => ['\\', 'b']
  | '\x0C' => ['\\', 'f']
  | '\n' => ['\\', 'n']
  | '\r' => ['\\', 'r']
  | '\t' => ['\\', 't']
  | c =>
      if c.toNat < 0x20 then
        ['\\', 'u', '0', '0'] ++ [Nat.digitChar (c.toNat / 16), Nat.digitChar (c.toNat % 16)]
      else [c]

def quoted (text : List Char) : List Char := '"' :: text.flatMap escapeChar ++ ['"']

namespace Value

/-! ## On one line -/

mutual

def compactChars : Value → List Char
  | .null => "null".toList
  | .bool true => "true".toList
  | .bool false => "false".toList
  | .nat value => Nat.toDigits 10 value
  | .string text => quoted text.toList
  | .array items => '[' :: compactItems items ++ [']']
  | .object members => '\x7b' :: compactMembers members ++ ['\x7d']

def compactItems : List Value → List Char
  | [] => []
  | [item] => compactChars item
  | item :: rest => compactChars item ++ ',' :: compactItems rest

def compactMembers : List (String × Value) → List Char
  | [] => []
  | [(name, value)] => quoted name.toList ++ ':' :: compactChars value
  | (name, value) :: rest =>
      quoted name.toList ++ ':' :: compactChars value ++ ',' :: compactMembers rest

end

/-! ## Over several lines -/

def newline (level : Nat) : List Char := '\n' :: List.replicate (2 * level) ' '

mutual

def prettyChars (level : Nat) : Value → List Char
  | .null => "null".toList
  | .bool true => "true".toList
  | .bool false => "false".toList
  | .nat value => Nat.toDigits 10 value
  | .string text => quoted text.toList
  | .array [] => ['[', ']']
  | .array items => '[' :: prettyItems (level + 1) items ++ newline level ++ [']']
  | .object [] => ['\x7b', '\x7d']
  | .object members => '\x7b' :: prettyMembers (level + 1) members ++ newline level ++ ['\x7d']

def prettyItems (level : Nat) : List Value → List Char
  | [] => []
  | [item] => newline level ++ prettyChars level item
  | item :: rest => newline level ++ prettyChars level item ++ ',' :: prettyItems level rest

def prettyMembers (level : Nat) : List (String × Value) → List Char
  | [] => []
  | [(name, value)] =>
      newline level ++ quoted name.toList ++ ':' :: ' ' :: prettyChars level value
  | (name, value) :: rest =>
      newline level ++ quoted name.toList ++ ':' :: ' ' :: prettyChars level value
        ++ ',' :: prettyMembers level rest

end

def compact (value : Value) : String := .ofList value.compactChars

def pretty (value : Value) : String := .ofList (value.prettyChars 0)

end Value

end CellGrading.Json
