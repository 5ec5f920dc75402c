import SharedVariables.Config.Setting
import SharedVariables.Json.Parser

/-!
# The server's configuration

Where a server listens, to which host its notifications go, and how much it logs. A configuration is
refused if it names no endpoint, or the same endpoint twice.
-/

namespace SharedVariables

/-- Why a configuration is refused. -/
inductive ConfigError where
  /-- The text is not that of a configuration. -/
  | malformed
  /-- There is nowhere to listen. -/
  | noEndpoints
  /-- An endpoint is listed again. -/
  | listedTwice (endpoint : Endpoint)
deriving DecidableEq, Repr

/-- The text of an error; a malformed text has none. -/
def ConfigError.message : ConfigError → String
  | .malformed => ""
  | .noEndpoints => "configuration error: no endpoints to listen on"
  | .listedTwice endpoint => s!"configuration error: endpoint {endpoint.text} listed twice"

/-- The configuration of a server. -/
structure ServerConfig where
  endpoints : List Endpoint
  /-- The host that notifications are sent to. -/
  notifyHost : IpAddress
  /-- Which events are logged. -/
  logLevel : String
deriving DecidableEq, Repr

namespace ServerConfig

/-- The configuration of a server that is told nothing. -/
def default : ServerConfig := ⟨[.default], .v4 .localhost, "info"⟩

/-- The configuration with other endpoints. -/
def ofEndpoints (endpoints : List Endpoint) : ServerConfig := { default with endpoints }

/-- The first endpoint that is the same as one of those before it; these are `before`. -/
def firstRepeated? (before : List Endpoint) : List Endpoint → Option Endpoint
  | [] => none
  | e :: rest => if before.any fun b => b.Same e then some e else firstRepeated? (e :: before) rest

/-- Refuses a configuration that no server can follow. -/
def validate (c : ServerConfig) : Except ConfigError Unit :=
  if c.endpoints.isEmpty then .error .noEndpoints
  else
    match firstRepeated? [] c.endpoints with
    | some e => .error (.listedTwice e)
    | none => .ok ()

/-- The names of the settings, in their order. -/
def fieldNames : List String := ["endpoints", "notify_host", "log_level"]

/-- The endpoints that a value lists. -/
def endpoints? (v : Json.Value) : Option (List Endpoint) := do
  (← v.elements?).mapM Json.Value.endpoint?

/-- The settings in a JSON text. -/
def parse? (text : String) : Option ServerConfig := do
  match ← (← Json.parse? text).fields? fieldNames with
  | [endpoints, notifyHost, logLevel] =>
    return {
      endpoints := ← Json.Value.orDefault default.endpoints endpoints? endpoints
      notifyHost := ← Json.Value.orDefault default.notifyHost Json.Value.ipAddress? notifyHost
      logLevel := ← Json.Value.orDefault default.logLevel Json.Value.string? logLevel }
  | _ => none

/-- The configuration in a JSON text, unless it is refused. -/
def load (text : String) : Except ConfigError ServerConfig :=
  match parse? text with
  | none => .error .malformed
  | some c => c.validate.map fun _ => c

/-- The JSON text of a configuration. -/
def json (c : ServerConfig) : String :=
  Json.object
    (fieldNames.zip
      [Json.array (c.endpoints.map Endpoint.json), c.notifyHost.json, Json.string c.logLevel])

end ServerConfig

end SharedVariables
