import SharedVariables.Notice

/-!
# Listening for notifications

Notifications arrive as datagrams, of which a listener sees the first 64 bytes at most. Datagrams
that are no notifications are passed over.
-/

namespace SharedVariables.Listener

/-- How much of a datagram is seen. -/
def windowSize : Nat := 64

/-- The notification in a datagram that arrives at `port`, if it is one. -/
def read? (port : UInt16) (datagram : Bytes) : Option Notice :=
  (Notice.decode port (datagram.take windowSize)).toOption

/-- The first notification among the datagrams that have arrived, and the datagrams after it. -/
def receive (port : UInt16) : List Bytes → Option (Notice × List Bytes)
  | [] => none
  | datagram :: rest =>
    match read? port datagram with
    | some notice => some (notice, rest)
    | none => receive port rest

/-- All notifications among the datagrams that have arrived, in order. -/
def receiveAll (port : UInt16) (datagrams : List Bytes) : List Notice :=
  datagrams.filterMap (read? port)

end SharedVariables.Listener
