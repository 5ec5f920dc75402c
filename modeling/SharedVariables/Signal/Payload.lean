import SharedVariables.Row
import SharedVariables.Signal.Basic
import SharedVariables.Signal.Error

/-!
# Payloads

The payload of a signal is the number of its kind in two bytes, followed by its items in order.
Bytes after the last item are ignored. A row travels inside a signal as a record; no bytes at all
stand for no row.
-/

namespace SharedVariables

open Wire

namespace Signal

/-- The payload of a signal. -/
def encode (s : Signal) : Except Wire.Error Bytes := do
  let items ← Item.encodeAll s.kind.layout s.values
  return bigEndian 2 s.kind.code ++ items

/-- The signal in a payload. -/
def decode (payload : Bytes) : Except SignalError Signal :=
  match Reader.unsigned 2 payload with
  | (.error e, _) => .error (.wire e)
  | (.ok code, rest) =>
    match SignalKind.ofCode? code with
    | none => .error (.unknownSignal code)
    | some kind =>
      match (Item.readAll kind.layout).result rest with
      | .ok values => .ok (.ofValues kind values)
      | .error e => .error (.wire e)

end Signal

/-! ## Records of rows -/

/-- The identity, process, port and flags of a partner. -/
def Partner.encode (p : Partner) : Bytes :=
  Item.encodeId p.id ++ bigEndian 4 p.pid.toNat ++ bigEndian 2 p.port.toNat ++
    bigEndian 2 p.flags.toWord.toNat

/-- Reads a partner. -/
def Partner.read : Reader Partner := do
  let id ← Item.readId
  let pid ← Item.readWord
  let port ← Item.readPort
  let flags ← Reader.unsigned 2
  return ⟨id, pid, port, .ofWord (.ofNat flags)⟩

/-- The record of a row. -/
def Row.encode (row : Row) : Bytes :=
  bigEndian 8 row.key.raw.toNat ++ row.offering.encode ++ row.accepting.encode ++ [row.stateCode] ++
    Item.encodeName row.name

/-- Reads the record of a row. -/
def Row.read : Reader Row := do
  let key ← Item.readKey
  let offering ← Partner.read
  let accepting ← Partner.read
  let stateCode ← Item.readByte
  let name ← Item.readName
  return ⟨key, offering, accepting, stateCode, name⟩

/-- The record of a row; nothing if there is no row. -/
def encodeRecord : Option Row → Bytes
  | some row => row.encode
  | none => []

/-- The row in a record, if it holds one. -/
def decodeRecord (bs : Bytes) : Except Wire.Error (Option Row) :=
  if bs.isEmpty then .ok none else (Row.read.result bs).map some

end SharedVariables
