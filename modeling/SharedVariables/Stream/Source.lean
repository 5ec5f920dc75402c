import SharedVariables.Text.Utf8

/-!
# Byte streams

A stream is what its reader meets, in order: bytes that arrive together, and reads that fail. At
most one arrival answers a read, which may get fewer bytes than it asked for; what it leaves of an
arrival answers the next one. When nothing is left, the stream has ended or reads fail for good.

`Source.fill` reads until it has so many bytes or cannot get them.
-/

namespace SharedVariables

/-- Why a read or a write fails. -/
inductive Fault where
  | interrupted
  | wouldBlock
  | timedOut
  | unexpectedEof
  | connectionReset
  | brokenPipe
deriving DecidableEq, Repr

/-- The name of a failure. -/
def Fault.name : Fault → String
  | .interrupted => "Interrupted"
  | .wouldBlock => "WouldBlock"
  | .timedOut => "TimedOut"
  | .unexpectedEof => "UnexpectedEof"
  | .connectionReset => "ConnectionReset"
  | .brokenPipe => "BrokenPipe"

/-- What a reader meets: bytes that arrive together, or a read that fails. A read that gets no byte
at all is the end of the stream. -/
inductive Arrival where
  | bytes (bs : Bytes)
  | fault (f : Fault)
deriving DecidableEq, Repr

/-- What a reader has before it, and how reads fail when nothing is left (`none`: they meet the end
of the stream). -/
structure Source where
  arrivals : List Arrival
  ending : Option Fault
deriving DecidableEq, Repr

/-- What an attempt to read a number of bytes came to. -/
inductive Filled where
  /-- All the bytes. -/
  | complete (bs : Bytes)
  /-- The stream ended after these bytes. -/
  | ended (bs : Bytes)
  /-- A read failed after these bytes. -/
  | failed (bs : Bytes) (f : Fault)
deriving DecidableEq, Repr

namespace Source

/-- The stream of the given bytes and nothing else. -/
def ofBytes (bs : Bytes) : Source := ⟨[.bytes bs], none⟩

/-- How many bytes are still to come. -/
def size (s : Source) : Nat :=
  (s.arrivals.map fun | .bytes bs => bs.length | .fault _ => 0).foldl (· + ·) 0

/-- The stream with more arrivals at its end. -/
def push (s : Source) (more : List Arrival) : Source := { s with arrivals := s.arrivals ++ more }

/-- Reads until `needed` more bytes have come after those in `got` (last first). Failures for which
`retried` holds do not end the attempt. -/
def fillFrom (retried : Fault → Bool) (ending : Option Fault) (needed : Nat) (got : Bytes) :
    List Arrival → Filled × List Arrival
  | [] =>
    match ending with
    | none => (.ended got.reverse, [])
    | some f => (.failed got.reverse f, [])
  | .fault f :: rest =>
    if retried f then fillFrom retried ending needed got rest else (.failed got.reverse f, rest)
  | .bytes bs :: rest =>
    if bs.isEmpty then (.ended got.reverse, rest)
    else
      let (now, later) := bs.splitAt needed
      if now.length < needed then
        fillFrom retried ending (needed - now.length) (now.reverse ++ got) rest
      else
        (.complete (now.reverse ++ got).reverse,
          if later.isEmpty then rest else .bytes later :: rest)

/-- Reads `n` bytes, where `n` is not zero. -/
def fill (retried : Fault → Bool) (n : Nat) (s : Source) : Filled × Source :=
  let (filled, rest) := fillFrom retried s.ending n [] s.arrivals
  (filled, { s with arrivals := rest })

end Source

end SharedVariables
