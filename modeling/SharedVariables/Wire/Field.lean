import SharedVariables.Wire.Reader

/-!
# Fields

Messages are made of integers of fixed width, in two's complement where they have a sign, and of
byte strings behind a two-byte length. `Field.encode` gives the bytes of a field, `Field.write` puts them
behind other ones, and `FieldType.read` reads a field back.
-/

namespace SharedVariables.Wire

/-- The widths of integers. -/
inductive Width where
  | w8
  | w16
  | w24
  | w32
  | w48
  | w64
deriving DecidableEq, Repr

/-- How many bytes a width has. -/
def Width.size : Width → Nat
  | .w8 => 1
  | .w16 => 2
  | .w24 => 3
  | .w32 => 4
  | .w48 => 6
  | .w64 => 8

/-- What a field holds. -/
inductive FieldType where
  | unsigned (width : Width)
  | signed (width : Width)
  | string
deriving DecidableEq, Repr

/-- A field with its value. An integer outside its width is written by its low bytes. -/
inductive Field where
  | integer (width : Width) (value : Int)
  | string (bytes : Bytes)
deriving DecidableEq, Repr

/-- The most bytes that a two-byte length can announce. -/
def maxStringLength : Nat := 65535

/-- A byte string behind its length. -/
def encodeString (bs : Bytes) : Except Error Bytes :=
  if bs.length ≤ maxStringLength then .ok (bigEndian 2 bs.length ++ bs)
  else .error (.stringTooLong bs.length)

/-- A signed integer in `k` bytes. -/
def encodeSigned (k : Nat) (value : Int) : Bytes :=
  bigEndian k (value % Nat.pow 256 k).toNat

/-- The bytes of a field. -/
def Field.encode : Field → Except Error Bytes
  | .integer width value => .ok (encodeSigned width.size value)
  | .string bytes => encodeString bytes

/-- Writes a field behind what has been written. A field that cannot be written leaves that alone. -/
def Field.write (written : Bytes) (field : Field) : Except Error Unit × Bytes :=
  match field.encode with
  | .ok bytes => (.ok (), written ++ bytes)
  | .error e => (.error e, written)

/-- Reads a field of the given type. -/
def FieldType.read : FieldType → Reader Field
  | .unsigned width => do return .integer width (← Reader.unsigned width.size)
  | .signed width => do return .integer width (← Reader.signed width.size)
  | .string => do return .string (← Reader.string)

end SharedVariables.Wire
