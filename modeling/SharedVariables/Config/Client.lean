import SharedVariables.Config.Setting
import SharedVariables.Json.Parser

/-!
# The client's configuration

Which server a client talks to, how long it waits for an answer, and by what name it introduces
itself. The configuration comes from a JSON text, or from the environment, where settings that make
no sense are passed over.
-/

namespace SharedVariables

/-- The configuration of a client. -/
structure ClientConfig where
  endpoint : Endpoint
  /-- How long connecting, reading and writing may take. -/
  timeout : Duration
  /-- The name of the program, which the server is told. -/
  progname : String
deriving DecidableEq, Repr

namespace ClientConfig

/-- The configuration of a client that is told nothing. -/
def default : ClientConfig := ⟨.default, .ofSeconds 5, "apl"⟩

/-- The span of time that a number of milliseconds is, if it is one and not zero. -/
def parseMillis? (s : String) : Option Duration := do
  let ms ← Address.decimal? (UInt64.size - 1) (Text.trimChars s.toList)
  if ms = 0 then none else some (.ofMillis ms)

/-- The configuration that the variables of an environment ask for. -/
def ofEnvironment (lookup : String → Option String) : ClientConfig where
  endpoint :=
    ((lookup "APSERVER_ENDPOINT").bind fun s => (Endpoint.parse s).toOption).getD default.endpoint
  timeout := ((lookup "APSERVER_TIMEOUT_MS").bind parseMillis?).getD default.timeout
  progname := default.progname

/-- The names of the settings, in their order. -/
def fieldNames : List String := ["endpoint", "timeout", "progname"]

/-- The configuration in a JSON text. -/
def parse? (text : String) : Option ClientConfig := do
  match ← (← Json.parse? text).fields? fieldNames with
  | [endpoint, timeout, progname] =>
    return {
      endpoint := ← Json.Value.orDefault default.endpoint Json.Value.endpoint? endpoint
      timeout := ← Json.Value.orDefault default.timeout Json.Value.duration? timeout
      progname := ← Json.Value.orDefault default.progname Json.Value.string? progname }
  | _ => none

/-- The JSON text of a configuration. -/
def json (c : ClientConfig) : String :=
  Json.object (fieldNames.zip [c.endpoint.json, c.timeout.json, Json.string c.progname])

end ClientConfig

end SharedVariables
