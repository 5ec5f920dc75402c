import SharedVariables.Config.Client
import SharedVariables.Partner
import SharedVariables.Stream.Frame

/-!
# Clients

A client has a connection to a server and exchanges signals over it on behalf of one processor.
Whatever fails in an exchange ends the connection, and without one nothing is sent any more.

What is at the other end is a `Peer`: it takes bytes, and bytes come from it.
-/

namespace SharedVariables

/-- What is at the other end of a connection. -/
class Peer (σ : Type) where
  /-- The peer after bytes are written to it, or how writing fails. -/
  receive : σ → Bytes → Except Fault σ
  /-- What is on its way from the peer. -/
  inbound : σ → Source
  /-- The peer with something else on its way from it. -/
  withInbound : σ → Source → σ
  /-- The peer after the connection is given up. -/
  hangUp : σ → σ

/-- A client, and the peer that it is or was connected to. -/
structure Client (σ : Type) where
  config : ClientConfig
  /-- The processor that the client acts for. -/
  me : Partner
  connected : Bool
  buffer : ReceiveBuffer
  peer : σ

/-- What a failed read or write means to a client that waits no longer than `limit`. -/
def SignalError.within (limit : Duration) : SignalError → SignalError
  | .io .wouldBlock => .timeout limit
  | .io .timedOut => .timeout limit
  | .io .unexpectedEof => .closed
  | e => e

namespace Client

variable {σ : Type}

/-- Whether connecting takes too long: a TCP connection is not made in no time at all. For anything
else, no time stands for any time. -/
def isTooSlow (config : ClientConfig) : Bool :=
  match config.endpoint with
  | .tcp _ => config.timeout.nanos == 0
  | _ => false

/-- A client at a peer that can be reached or not. -/
def connect (config : ClientConfig) (me : Partner) (peer : σ) (reachable : Bool) : Client σ :=
  ⟨config, me, reachable && !isTooSlow config, [], peer⟩

variable [Peer σ]

/-- The client without its connection. -/
def disconnect (c : Client σ) : Client σ :=
  { c with connected := false, peer := Peer.hangUp c.peer }

/-- Writes a signal; nothing is written of one that cannot be encoded. -/
def writeSignal (c : Client σ) (s : Signal) : Except SignalError (Client σ) :=
  match s.frame with
  | .error e => .error e
  | .ok frame =>
    match Peer.receive c.peer frame with
    | .error fault => .error (.io fault)
    | .ok peer => .ok { c with peer }

/-- Reads the next signal. -/
def readSignal (c : Client σ) : Except SignalError Signal × Client σ :=
  let received := readFrame c.buffer (Peer.inbound c.peer)
  let c :=
    { c with buffer := received.buffer, peer := Peer.withInbound c.peer received.source }
  match received.result with
  | .ok (some reply) => (.ok reply, c)
  | .ok none => (.error .closed, c)
  | .error e => (.error e, c)

/-- Writes a request and reads its answer, which is of the kind `expected`. -/
def exchange (c : Client σ) (s : Signal) (expected : SignalKind) :
    Except SignalError Signal × Client σ :=
  match c.writeSignal s with
  | .error e => (.error e, c)
  | .ok c =>
    match c.readSignal with
    | (.error e, c) => (.error e, c)
    | (.ok reply, c) =>
      if reply.kind = expected then (.ok reply, c)
      else (.error (.unexpectedResponse expected reply.kind), c)

/-- Sends a request and waits for its answer. A signal that is not answered is no request. -/
def request (c : Client σ) (s : Signal) : Except SignalError Signal × Client σ :=
  match s.answer? with
  | none => (.error (.unexpectedResponse s.kind s.kind), c)
  | some expected =>
    if c.connected then
      match c.exchange s expected with
      | (.ok reply, c) => (.ok reply, c)
      | (.error e, c) => (.error (e.within c.config.timeout), c.disconnect)
    else (.error .notConnected, c)

/-- Sends a signal and waits for nothing. -/
def send (c : Client σ) (s : Signal) : Except SignalError Unit × Client σ :=
  if c.connected then
    match c.writeSignal s with
    | .ok c => (.ok (), c)
    | .error e => (.error (e.within c.config.timeout), c.disconnect)
  else (.error .notConnected, c)

/-- Says good-bye, whether or not the peer still listens, and gives up the connection. -/
def close (c : Client σ) : Client σ :=
  if c.connected then
    match Peer.receive c.peer closeFrame with
    | .ok peer => { c with peer }.disconnect
    | .error _ => c.disconnect
  else c

end Client

end SharedVariables
