/-!
# UTF-8

Texts travel as UTF-8. `utf8Decode` reads any bytes at all: each longest piece that begins a
character without completing it, and each byte that cannot begin one, reads as the replacement
character. On the bytes of a text it is the inverse of `utf8Encode`.
-/

namespace SharedVariables

/-- A sequence of bytes. -/
abbrev Bytes := List UInt8

namespace Text

/-- The UTF-8 form of a text. -/
def utf8Encode (s : String) : Bytes :=
  s.toList.flatMap String.utf8EncodeChar

/-- What is written for bytes that spell no character. -/
def replacement : Char := '\uFFFD'

/-- A character being read: how many bytes it still needs, the value of the bits seen so far, and
the bounds of the next byte. -/
structure Utf8State where
  owed : Nat
  value : Nat
  low : UInt8
  high : UInt8
deriving DecidableEq, Repr

namespace Utf8State

/-- Between two characters. -/
def idle : Utf8State := ⟨0, 0, 0x80, 0xBF⟩

/-- The state after a byte in first position, and the character that the byte completes. -/
def lead (b : UInt8) : List Char × Utf8State :=
  if b < 0x80 then ([Char.ofNat b.toNat], idle)
  else if b < 0xC2 then ([replacement], idle)
  else if b < 0xE0 then ([], ⟨1, b.toNat % 32, 0x80, 0xBF⟩)
  else if b < 0xF0 then
    ([], ⟨2, b.toNat % 16, if b = 0xE0 then 0xA0 else 0x80, if b = 0xED then 0x9F else 0xBF⟩)
  else if b < 0xF5 then
    ([], ⟨3, b.toNat % 8, if b = 0xF0 then 0x90 else 0x80, if b = 0xF4 then 0x8F else 0xBF⟩)
  else ([replacement], idle)

/-- The state after one more byte, and the characters that the byte completes. A byte that cannot
continue the character being read ends it and is read again in first position. -/
def feed (s : Utf8State) (b : UInt8) : List Char × Utf8State :=
  if s.owed = 0 then lead b
  else if s.low ≤ b ∧ b ≤ s.high then
    let value := s.value * 64 + b.toNat % 64
    if s.owed = 1 then ([Char.ofNat value], idle) else ([], ⟨s.owed - 1, value, 0x80, 0xBF⟩)
  else
    let (cs, t) := lead b
    (replacement :: cs, t)

/-- The characters that remain when the bytes end. -/
def finish (s : Utf8State) : List Char :=
  if s.owed = 0 then [] else [replacement]

end Utf8State

/-- The characters and the state after `bs`, from the state `s`; the characters read before are
`read`, last first. -/
def utf8Run (s : Utf8State) (read : List Char) (bs : Bytes) : List Char × Utf8State :=
  bs.foldl (fun (read, s) b => let (cs, t) := s.feed b; (cs.reverse ++ read, t)) (read, s)

/-- The text that `bs` spell, with replacement characters for what spells nothing. -/
def utf8Decode (bs : Bytes) : String :=
  let (read, s) := utf8Run .idle [] bs
  String.ofList (s.finish.reverse ++ read).reverse

end Text

end SharedVariables
