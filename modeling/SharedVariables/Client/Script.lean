import SharedVariables.Client.Basic

/-!
# Scripted peers

A peer whose behaviour is laid down beforehand: what it sends does not depend on what it is sent. It
keeps what was written to it. As long as it is there, a read for which nothing is left waits in
vain.
-/

namespace SharedVariables

/-- A peer that follows a script. -/
structure Script where
  /-- What was written to the peer, last first. -/
  received : List Bytes
  /-- What is on its way from the peer. -/
  inbound : Source
  /-- Whether the peer takes no more bytes. -/
  gone : Bool

namespace Script

/-- A peer that has nothing to send. -/
def silent : Script := ⟨[], ⟨[], some .wouldBlock⟩, false⟩

/-- The peer with more bytes on their way from it; it has none after it has shut its end down. -/
def queue (s : Script) (bs : Bytes) : Script :=
  if bs.isEmpty ∨ s.inbound.ending = none then s
  else { s with inbound := s.inbound.push [.bytes bs] }

/-- The peer after it has shut its end down: reads meet the end of the stream. -/
def shutDown (s : Script) : Script := { s with inbound := { s.inbound with ending := none } }

/-- The peer after it has gone away: writes fail as well. -/
def drop (s : Script) : Script := { s.shutDown with gone := true }

instance : Peer Script where
  receive s bs := if s.gone then .error .brokenPipe else .ok { s with received := bs :: s.received }
  inbound s := s.inbound
  withInbound s inbound := { s with inbound }
  hangUp s := s

end Script

end SharedVariables
