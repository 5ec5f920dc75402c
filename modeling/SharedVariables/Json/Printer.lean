import SharedVariables.Text.Hex

/-!
# Writing JSON

JSON texts are put together from the texts of their parts, without blanks. In strings the quote, the
backslash and the control characters below the space are escaped, and nothing else.
-/

namespace SharedVariables.Json

/-- How one character is written inside a string. -/
def escapedChar (c : Char) : List Char :=
  if c = '"' ∨ c = '\\' then ['\\', c]
  else if c = '\x08' then ['\\', 'b']
  else if c = '\x0c' then ['\\', 'f']
  else if c = '\n' then ['\\', 'n']
  else if c = '\r' then ['\\', 'r']
  else if c = '\t' then ['\\', 't']
  else if c.toNat < 0x20 then '\\' :: 'u' :: (Text.hexLower 4 c.toNat).toList
  else [c]

/-- The text of a string. -/
def string (s : String) : String :=
  String.ofList ('"' :: (s.toList.flatMap escapedChar ++ ['"']))

/-- The text of a truth value. -/
def bool (b : Bool) : String := if b then "true" else "false"

/-- The text of an array, from the texts of its elements. -/
def array (elements : List String) : String := "[" ++ ",".intercalate elements ++ "]"

/-- The text of an object, from the names and the texts of its members. -/
def object (members : List (String × String)) : String :=
  "\x7b" ++ ",".intercalate (members.map fun (name, value) => string name ++ ":" ++ value) ++ "\x7d"

end SharedVariables.Json
