import SharedVariables.Signal.Payload

/-!
# Frames

On a stream every payload stands behind its length in four bytes. A length of zero is an orderly
close. A frame that cannot be decoded is taken off the stream like any other, so that the next one
can be read.

There are two readers. The blocking one retries interrupted reads and tells a stream that ends
inside a length from one that ends before it; the server's reader does neither. Both keep the bytes
of a payload in a buffer that is used again for the next one and never shrinks.
-/

namespace SharedVariables

open Wire

/-- The length in front of a payload. -/
def frameHeader (length : Nat) : Except SignalError Bytes :=
  if length ≤ maxFrameLength then .ok (bigEndian 4 length) else .error (.frameTooLarge length)

/-- A payload behind its length. -/
def frameBytes (payload : Bytes) : Except SignalError Bytes :=
  (frameHeader payload.length).map (· ++ payload)

/-- The frame that says good-bye. -/
def closeFrame : Bytes := bigEndian 4 0

/-- The frame of a signal. -/
def Signal.frame (s : Signal) : Except SignalError Bytes :=
  match s.encode with
  | .ok payload => frameBytes payload
  | .error e => .error (.wire e)

/-- The buffer of a reader. -/
abbrev ReceiveBuffer := Bytes

/-- The buffer after `bs` have been written over its beginning. -/
def ReceiveBuffer.overwrite (buffer : ReceiveBuffer) (bs : Bytes) : ReceiveBuffer :=
  bs ++ buffer.drop bs.length

/-- What a reader got: a signal, nothing more, or an error; then its buffer and the rest of the
stream. -/
structure Received where
  result : Except SignalError (Option Signal)
  buffer : ReceiveBuffer
  source : Source

namespace Received

/-- The signal in the first `length` bytes of the buffer. -/
def ofBuffer (buffer : ReceiveBuffer) (length : Nat) (source : Source) : Received :=
  ⟨(Signal.decode (buffer.take length)).map some, buffer, source⟩

end Received

/-- Reads a payload of `length` bytes; `ends` tells which failures are taken for the end of the
stream. -/
def readPayload (retried ends : Fault → Bool) (buffer : ReceiveBuffer) (length : Nat) (s : Source) :
    Received :=
  if length = 0 then ⟨.ok none, buffer, s⟩
  else if maxFrameLength < length then ⟨.error (.frameTooLarge length), buffer, s⟩
  else
    match s.fill retried length with
    | (.complete bs, rest) => .ofBuffer (buffer.overwrite bs) length rest
    | (.ended bs, rest) => ⟨.error .closed, buffer.overwrite bs, rest⟩
    | (.failed bs f, rest) =>
      ⟨.error (if ends f then .closed else .io f), buffer.overwrite bs, rest⟩

/-- Reads the next signal, retrying reads that are interrupted. -/
def readFrame (buffer : ReceiveBuffer) (s : Source) : Received :=
  let retried (f : Fault) : Bool := f = .interrupted
  match s.fill retried 4 with
  | (.complete header, rest) =>
    readPayload retried (fun _ => false) buffer (ofBigEndian header) rest
  | (.ended bs, rest) => ⟨if bs.isEmpty then .ok none else .error .closed, buffer, rest⟩
  | (.failed _ f, rest) => ⟨.error (.io f), buffer, rest⟩

/-- Reads the next signal on the server's side: a stream that ends inside a length has ended. -/
def readFrameServer (buffer : ReceiveBuffer) (s : Source) : Received :=
  let ends (f : Fault) : Bool := f = .unexpectedEof
  match s.fill (fun _ => false) 4 with
  | (.complete header, rest) =>
    readPayload (fun _ => false) ends buffer (ofBigEndian header) rest
  | (.ended _, rest) => ⟨.ok none, buffer, rest⟩
  | (.failed _ f, rest) => ⟨if ends f then .ok none else .error (.io f), buffer, rest⟩

/-- Whether reading can go on behind a frame that gave this error. -/
def SignalError.isInFrame : SignalError → Bool
  | .wire _ => true
  | .unknownSignal _ => true
  | _ => false

/-- At most `fuel` results of reading one frame after another, up to the end of the stream or an
error that is not that of a single frame. -/
def readFrames (read : ReceiveBuffer → Source → Received) :
    Nat → ReceiveBuffer → Source → List (Except SignalError (Option Signal))
  | 0, _, _ => []
  | fuel + 1, buffer, s =>
    let received := read buffer s
    let goesOn :=
      match received.result with
      | .ok signal => signal.isSome
      | .error e => e.isInFrame
    received.result ::
      if goesOn then readFrames read fuel received.buffer received.source else []

/-- All results of reading one frame after another. A frame takes bytes, so there are no more of
them than bytes. -/
def Source.frames (read : ReceiveBuffer → Source → Received) (s : Source) :
    List (Except SignalError (Option Signal)) :=
  readFrames read (s.size + 1) [] s

end SharedVariables
