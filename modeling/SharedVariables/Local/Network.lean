import SharedVariables.Endpoint

/-!
# The network of a host

Datagrams and connections need a network. On a host without one nothing can be sent: each attempt
fails with the code and the text of the failure. A datagram has at most 65535 bytes in any case.
-/

namespace SharedVariables

/-- What a host can reach. -/
inductive Network where
  /-- Whatever is sent arrives. -/
  | connected
  /-- There is no way out, not even to the host itself. -/
  | absent
deriving DecidableEq, Repr

/-- A failure of the host, by its code, its name and its text. -/
structure HostFailure where
  code : Nat
  name : String
  text : String
deriving DecidableEq, Repr

namespace HostFailure

/-- There is no way to the receiver. -/
def networkUnreachable : HostFailure := ⟨101, "NetworkUnreachable", "Network is unreachable"⟩

/-- A datagram is too long for any network. -/
def messageTooLong : HostFailure := ⟨90, "Uncategorized", "Message too long"⟩

/-- A failure with its code, its name and its text. -/
def describe (f : HostFailure) : String :=
  s!"Os \x7b code: {f.code}, kind: {f.name}, message: {Text.quoted f.text} \x7d"

end HostFailure

namespace Network

/-- Whether a client can connect to a server that listens at an endpoint; sockets with a path or an
abstract name need no network. -/
def canConnect (n : Network) : Endpoint → Bool
  | .tcp _ => n = .connected
  | .unixPath _ => true
  | .abstractName _ => true

/-- The most bytes that a datagram is allowed to have. -/
def maxDatagramLength : Nat := 65535

/-- Sends datagrams one after the other until one fails; the result is what arrives. -/
def deliver (n : Network) : List Bytes → Except HostFailure (List Bytes)
  | [] => .ok []
  | datagram :: rest =>
    if maxDatagramLength < datagram.length then .error .messageTooLong
    else if n = .absent then .error .networkUnreachable
    else (deliver n rest).map (datagram :: ·)

end Network

end SharedVariables
