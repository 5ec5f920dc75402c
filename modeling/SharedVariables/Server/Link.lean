import SharedVariables.Client.Basic
import SharedVariables.Server.Service

/-!
# Clients of a server at hand

A link joins a client to a session of a server. Whatever the client writes is served at once, and
the replies wait until the client reads them. When the session is over, the client meets the end of
the stream and can write no more; when the client hangs up, the session is finished.
-/

namespace SharedVariables

/-- A connection with a session at its other end. -/
structure Link where
  service : Service
  /-- Whether the session goes on. -/
  isOpen : Bool
  /-- What the client has not read yet. -/
  outbound : Source

namespace Link

/-- A fresh connection to a server. -/
def ofServer (server : Server) : Link :=
  ⟨.start server ⟨[], some .wouldBlock⟩ none, true, ⟨[], some .wouldBlock⟩⟩

/-- The frames of signals, which are given last first. -/
def framesOf (signals : List Signal) : List Arrival :=
  signals.reverse.filterMap fun s => s.frame.toOption.map .bytes

/-- The link with the replies of the session sent on to the client. -/
def flush (l : Link) : Link :=
  { l with
    service := { l.service with replies := [] }
    outbound := l.outbound.push (framesOf l.service.replies) }

/-- The link after the session is over. -/
def endSession (l : Link) : Link :=
  if l.isOpen then
    { l with
      service := l.service.finish
      isOpen := false
      outbound := { l.outbound with ending := none } }
  else l

/-- Serves at most `fuel` of the signals that have arrived. -/
def serve : Nat → Link → Link
  | 0, l => l
  | fuel + 1, l =>
    if l.service.inbound.arrivals.isEmpty then l
    else
      match l.service.step with
      | (service, true) => serve fuel { l with service }.flush
      | (service, false) => { l with service }.flush.endSession

/-- The link after the client has written `bs`. -/
def receive (l : Link) (bs : Bytes) : Except Fault Link :=
  if l.isOpen then
    let arrived := { l.service with inbound := l.service.inbound.push [.bytes bs] }
    .ok (serve (arrived.inbound.size + 1) { l with service := arrived })
  else .error .brokenPipe

instance : Peer Link where
  receive := receive
  inbound l := l.outbound
  withInbound l outbound := { l with outbound }
  hangUp := endSession

end Link

/-- What a client does on a server: the value, the client and the server afterwards, and the
notifications that are sent. -/
structure Attended (α : Type) where
  value : α
  client : Client Link
  server : Server
  notices : List Notice

namespace Client

/-- Lets a client act on a server that other clients may have changed since it acted last. -/
def actOn {α : Type} (c : Client Link) (server : Server) (act : Client Link → α × Client Link) :
    Attended α :=
  let link : Link := { c.peer with service := { c.peer.service with server, notices := [] } }
  let (value, c) := act { c with peer := link }
  ⟨value, c, c.peer.service.server, c.peer.service.notices⟩

/-- Makes sure that the session of a client has served all it was sent, by asking it for the
coupling of no variable. A reply that the client has not read yet is taken for the answer if it is
of that kind; any other ends the connection. -/
def settle (c : Client Link) : Client Link :=
  if c.connected then (c.request (.getCoupling .none)).2 else c

end Client

end SharedVariables
