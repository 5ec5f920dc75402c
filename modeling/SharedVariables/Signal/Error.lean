import SharedVariables.Duration
import SharedVariables.Signal.Kind
import SharedVariables.Stream.Source
import SharedVariables.Text.Quoted

/-!
# Why signals fail

The causes for which a signal cannot be sent, received or answered, and their texts.
-/

namespace SharedVariables

/-- The largest payload of a frame. -/
def maxFrameLength : Nat := 64 * 1024 * 1024

/-- Why an exchange of signals fails. -/
inductive SignalError where
  /-- A read or a write failed. -/
  | io (fault : Fault)
  /-- The bytes are not those of a signal, or a signal has none. -/
  | wire (error : Wire.Error)
  /-- No kind of signal has this number. -/
  | unknownSignal (code : Nat)
  /-- A frame announces, or would have, too many bytes. -/
  | frameTooLarge (length : Nat)
  /-- The answer is of another kind than the request asks for. -/
  | unexpectedResponse (expected received : SignalKind)
  /-- The stream ended where a signal was due. -/
  | closed
  /-- No answer came in time. -/
  | timeout (limit : Duration)
  /-- A text names no place to connect to. -/
  | badEndpoint (text : String)
  /-- There is no connection. -/
  | notConnected
deriving DecidableEq, Repr

/-- The name of a cause. -/
def SignalError.name : SignalError → String
  | .io _ => "Io"
  | .wire _ => "Wire"
  | .unknownSignal _ => "UnknownSignal"
  | .frameTooLarge _ => "FrameTooLarge"
  | .unexpectedResponse _ _ => "UnexpectedResponse"
  | .closed => "Closed"
  | .timeout _ => "Timeout"
  | .badEndpoint _ => "BadEndpoint"
  | .notConnected => "NotConnected"

/-- The text of an error. -/
def SignalError.message : SignalError → String
  | .io fault => fault.name
  | .wire error => s!"Malformed signal: {error.message}"
  | .unknownSignal code => s!"Unknown signal id {code}"
  | .frameTooLarge length => s!"Frame of {length} bytes exceeds the {maxFrameLength} byte limit"
  | .unexpectedResponse expected received =>
    s!"Expected {expected.name} but received {received.name}"
  | .closed => "Connection closed by peer"
  | .timeout limit => s!"No response within {limit.text}"
  | .badEndpoint text => s!"Invalid endpoint {Text.quoted text}"
  | .notConnected => "Not connected"

end SharedVariables
