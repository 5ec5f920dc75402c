import SharedVariables.Server.Session
import SharedVariables.Stream.Frame

/-!
# Serving a connection

A session reads signals from its connection and writes the replies, one after the other, until the
client says good-bye, the stream ends or fails, a frame is no request, or a reply cannot be written.
Then it is finished.
-/

namespace SharedVariables

/-- A session at work. -/
structure Service where
  session : Session
  server : Server
  buffer : ReceiveBuffer
  /-- What the client sends. -/
  inbound : Source
  /-- How many more bytes the client takes; `none` if it takes any number. -/
  room : Option Nat
  /-- The replies that have been written, last first. -/
  replies : List Signal
  /-- The notifications that have been sent, first to last. -/
  notices : List Notice

namespace Service

/-- The service of a connection that has just been made. -/
def start (server : Server) (inbound : Source) (room : Option Nat) : Service :=
  ⟨.unbound, server, [], inbound, room, [], []⟩

/-- The service after a signal. -/
def after (s : Service) (d : Dispatched) : Service :=
  { s with session := d.session, server := d.server, notices := s.notices ++ d.notices }

/-- Writes a reply, if it can be encoded and the client takes it. -/
def write? (s : Service) (reply : Signal) : Option Service :=
  match reply.frame with
  | .error _ => none
  | .ok frame =>
    match s.room with
    | none => some { s with replies := reply :: s.replies }
    | some room =>
      if frame.length ≤ room then
        some { s with replies := reply :: s.replies, room := some (room - frame.length) }
      else none

/-- Answers a signal; `false` if the session is over. -/
def react (s : Service) (signal : Signal) : Service × Bool :=
  match s.session.dispatch s.server signal with
  | .error _ => (s, false)
  | .ok d =>
    let s := s.after d
    match d.reply with
    | none => (s, true)
    | some reply =>
      match s.write? reply with
      | some s => (s, true)
      | none => (s, false)

/-- Reads a signal and answers it; `false` if the session is over. -/
def step (s : Service) : Service × Bool :=
  let received := readFrameServer s.buffer s.inbound
  let s := { s with buffer := received.buffer, inbound := received.source }
  match received.result with
  | .ok (some signal) => s.react signal
  | .ok none => (s, false)
  | .error _ => (s, false)

/-- Ends the session. -/
def finish (s : Service) : Service := s.after (s.session.finish s.server)

/-- Reads and answers at most `fuel` signals, then ends the session. -/
def runFor : Nat → Service → Service
  | 0, s => s.finish
  | fuel + 1, s =>
    match s.step with
    | (s, true) => runFor fuel s
    | (s, false) => s.finish

/-- Serves a connection to its end. Every signal takes bytes, so there are at most as many of them.
-/
def run (s : Service) : Service := runFor (s.inbound.size + 1) s

end Service

end SharedVariables
