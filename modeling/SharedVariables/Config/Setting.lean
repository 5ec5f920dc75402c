import SharedVariables.Endpoint
import SharedVariables.Json.Printer
import SharedVariables.Json.Value

/-!
# Settings

How single settings stand in a configuration text: addresses and endpoints as strings, a span of
time as its seconds and nanoseconds. A setting that is left out keeps its default.
-/

namespace SharedVariables

/-- The numbers that a span of time is made of, in their order. -/
def Duration.fieldNames : List String := ["secs", "nanos"]

/-- A span of time as an object. -/
def Duration.json (d : Duration) : String :=
  Json.object (Duration.fieldNames.zip [toString d.seconds, toString d.subsecNanos])

/-- An endpoint as a string. -/
def Endpoint.json (e : Endpoint) : String := Json.string e.text

/-- A host's address as a string. -/
def IpAddress.json (ip : IpAddress) : String := Json.string ip.text

/-- A socket's address as a string. -/
def SocketAddress.json (a : SocketAddress) : String := Json.string a.text

namespace Json.Value

/-- The endpoint that a value names. -/
def endpoint? (v : Value) : Option Endpoint := do
  (Endpoint.parse (← v.string?)).toOption

/-- The host's address that a value is. -/
def ipAddress? (v : Value) : Option IpAddress := do
  IpAddress.parse? (← v.string?)

/-- The socket's address that a value is. -/
def socketAddress? (v : Value) : Option SocketAddress := do
  SocketAddress.parse? (← v.string?)

/-- The span of time that a value is. More than a second's worth of nanoseconds counts as seconds,
of which there are at most 2 ^ 64 - 1. -/
def duration? (v : Value) : Option Duration := do
  match ← v.exactFields? Duration.fieldNames with
  | [secs, nanos] =>
    let secs ← secs.natural? (UInt64.size - 1)
    let nanos ← nanos.natural? (UInt32.size - 1)
    let d : Duration := ⟨secs * 1000000000 + nanos⟩
    if d.seconds < UInt64.size then some d else none
  | _ => none

/-- The setting that `read` finds in a value, or its default if the value is left out. -/
def orDefault {α : Type} (default : α) (read : Value → Option α) : Option Value → Option α
  | some v => read v
  | none => some default

end Json.Value

end SharedVariables
