import SharedVariables.Event
import SharedVariables.Key
import SharedVariables.Wire.Field

/-!
# Notifications

A partner that should look at the registry again is sent a notification: a datagram of 14 bytes with
a tag, a key and, for an event, the event. `Notice.encode` writes it and `Notice.decode` reads it;
the port is the address of the datagram and not part of it.
-/

namespace SharedVariables

/-- What a notification is about. -/
inductive NoticeKind where
  | makeOffer
  | offerMatched
  | retractOffer
  | newEvent (event : Event)
  | disconnect
deriving DecidableEq, Repr

namespace NoticeKind

/-- The tag of a kind. -/
def tag : NoticeKind → UInt16
  | .makeOffer => 0
  | .offerMatched => 1
  | .retractOffer => 2
  | .newEvent _ => 3
  | .disconnect => 4

/-- The event that a kind carries. -/
def event : NoticeKind → Event
  | .newEvent e => e
  | _ => .none

/-- The kind with a given tag, which carries `event` if it carries one. -/
def ofTag? (tag : UInt16) (event : Event) : Option NoticeKind :=
  match tag.toNat with
  | 0 => some .makeOffer
  | 1 => some .offerMatched
  | 2 => some .retractOffer
  | 3 => some (.newEvent event)
  | 4 => some .disconnect
  | _ => none

/-- The name of a kind. -/
def name : NoticeKind → String
  | .makeOffer => "MakeOffer"
  | .offerMatched => "OfferMatched"
  | .retractOffer => "RetractOffer"
  | .newEvent _ => "NewEvent"
  | .disconnect => "Disconnect"

/-- The kind with a given name, which carries `event` if it carries one. -/
def ofName? (name : String) (event : Event) : Option NoticeKind :=
  [.makeOffer, .offerMatched, .retractOffer, .newEvent event, .disconnect].find? fun k =>
    k.name == name

/-- The name of a kind, with its event if it carries one. -/
def text (k : NoticeKind) : String :=
  match k with
  | .newEvent event => s!"{k.name}({event.text})"
  | _ => k.name

end NoticeKind

/-- A notification for whoever listens on a port. -/
structure Notice where
  port : UInt16
  kind : NoticeKind
  key : Key
deriving DecidableEq, Repr

namespace Notice

open Wire

/-- The length of a datagram. -/
def size : Nat := 14

/-- The datagram of a notification. -/
def encode (n : Notice) : Bytes :=
  bigEndian 2 n.kind.tag.toNat ++ bigEndian 8 n.key.raw.toNat ++ bigEndian 4 n.kind.event.bits.toNat

/-- The tag, the key and the event field of a datagram. -/
def readFields : Reader (UInt16 × Key × Event) := do
  let tag ← Reader.unsigned 2
  let key ← Reader.unsigned 8
  let event ← Reader.unsigned 4
  return (.ofNat tag, ⟨.ofNat key⟩, ⟨.ofNat event⟩)

/-- The notification in a datagram that arrived at `port`. -/
def decode (port : UInt16) (bs : Bytes) : Except Wire.Error Notice :=
  if bs.length ≠ size then .error (.badDatagram size bs.length)
  else do
    let (tag, key, event) ← readFields.result bs
    match NoticeKind.ofTag? tag event with
    | some kind => .ok ⟨port, kind, key⟩
    | none => .error (.unknownTag tag)

/-- What a notification says, and to whom. -/
def text (n : Notice) : String := s!"{n.kind.text} key {n.key.text} -> :{n.port.toNat}"

end Notice

end SharedVariables
