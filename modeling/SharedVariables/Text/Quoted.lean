import SharedVariables.Text.Hex
import SharedVariables.Text.Invisible

/-!
# Quoted text

Error texts quote what the user wrote: between double quotes, with a backslash in front of a quote
or a backslash, with a letter for the common control characters, and with the number of every other
character that has no shape of its own.
-/

namespace SharedVariables.Text

/-- How one character is written between the quotes. -/
def quotedChar (c : Char) : List Char :=
  if c = '\x00' then ['\\', '0']
  else if c = '\t' then ['\\', 't']
  else if c = '\r' then ['\\', 'r']
  else if c = '\n' then ['\\', 'n']
  else if c = '"' ∨ c = '\\' then ['\\', c]
  else if isInvisible c then
    '\\' :: 'u' :: '\x7b' :: (Nat.toDigits 16 c.toNat ++ ['\x7d'])
  else [c]

/-- A text between double quotes. -/
def quoted (s : String) : String :=
  String.ofList ('"' :: (s.toList.flatMap quotedChar ++ ['"']))

end SharedVariables.Text
