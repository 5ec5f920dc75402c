/-!
# Why bytes are not a message

The causes for which a field cannot be written or read, and their texts.
-/

namespace SharedVariables.Wire

/-- Why a field cannot be written or read. -/
inductive Error where
  /-- A field needs more bytes than are left. -/
  | truncated (needed available : Nat)
  /-- A byte string is too long for its two-byte length. -/
  | stringTooLong (length : Nat)
  /-- A name announces more code points than a name may have. -/
  | nameTooLong (length : Nat)
  /-- No kind of notification has this tag. -/
  | unknownTag (tag : UInt16)
  /-- A datagram does not have the length of a notification. -/
  | badDatagram (expected actual : Nat)
deriving DecidableEq, Repr

/-- The name of a cause. -/
def Error.name : Error → String
  | .truncated _ _ => "Truncated"
  | .stringTooLong _ => "StringTooLong"
  | .nameTooLong _ => "NameTooLong"
  | .unknownTag _ => "UnknownTag"
  | .badDatagram _ _ => "BadDatagram"

/-- The text of an error. -/
def Error.message : Error → String
  | .truncated needed available =>
    s!"Truncated input: needed {needed} bytes, {available} available"
  | .stringTooLong length => s!"String too long for a 2-byte length prefix: {length} bytes"
  | .nameTooLong length => s!"Variable name too long: {length} code points"
  | .unknownTag tag => s!"Unknown notification tag: {tag.toNat}"
  | .badDatagram expected actual => s!"Bad datagram length: expected {expected}, got {actual}"

end SharedVariables.Wire
