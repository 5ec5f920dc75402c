/-!
# Hexadecimal text

Numbers are written in hexadecimal with at least a given number of digits. Keys, flag words and
unknown event bits use upper-case digits, everything else lower-case ones.
-/

namespace SharedVariables.Text

/-- `cs` with zeros in front until it is `width` long. -/
def zeroPad (width : Nat) (cs : List Char) : List Char :=
  List.replicate (width - cs.length) '0' ++ cs

/-- `n` in lower-case hexadecimal with at least `width` digits. -/
def hexLower (width n : Nat) : String :=
  String.ofList (zeroPad width (Nat.toDigits 16 n))

/-- `n` in upper-case hexadecimal with at least `width` digits. -/
def hexUpper (width n : Nat) : String :=
  String.ofList (zeroPad width ((Nat.toDigits 16 n).map Char.toUpper))

/-- The value of a hexadecimal digit of either case. -/
def hexValue? (c : Char) : Option Nat :=
  if '0' ≤ c ∧ c ≤ '9' then some (c.toNat - '0'.toNat)
  else if 'a' ≤ c ∧ c ≤ 'f' then some (c.toNat - 'a'.toNat + 10)
  else if 'A' ≤ c ∧ c ≤ 'F' then some (c.toNat - 'A'.toNat + 10)
  else none

end SharedVariables.Text
