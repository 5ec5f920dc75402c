import SharedVariables.Config.Setting
import SharedVariables.Json.Parser

/-!
# The local configuration

Whether a process takes part in sharing variables on its own host, in which segment of memory it
finds the registry, and where notifications go. The configuration comes from a JSON text, or from
the environment, where settings that make no sense are passed over.
-/

namespace SharedVariables

/-- The configuration of a process that shares variables on its own host. -/
structure LocalConfig where
  enabled : Bool
  /-- The name of the segment that holds the registry. -/
  segmentName : String
  /-- Where the process waits for notifications; port 0 stands for any free port. -/
  listenAt : SocketAddress
  /-- The host that notifications are sent to. -/
  notifyHost : IpAddress
deriving DecidableEq, Repr

namespace LocalConfig

/-- The configuration of a process that is told nothing. -/
def default : LocalConfig := ⟨true, "/apl-svars", .v4 .localhost 0, .v4 .localhost⟩

/-- The words that turn a switch off. -/
def offWords : List String := ["0", "off", "no", "false"]

/-- Whether a switch is on: unless it reads as one of the words for off, in letters of either case.
-/
def isOn (s : String) : Bool :=
  String.ofList ((Text.trimChars s.toList).map Char.toLower) ∉ offWords

/-- A name that can be that of a segment: a slash with something behind it. -/
def segmentName? (s : String) : Option String :=
  match s.toList with
  | '/' :: _ :: _ => some s
  | _ => none

/-- The configuration that the variables of an environment ask for. -/
def ofEnvironment (lookup : String → Option String) : LocalConfig where
  enabled := ((lookup "APL_SVARS").map isOn).getD default.enabled
  segmentName := ((lookup "APL_SVARS_SHM").bind segmentName?).getD default.segmentName
  listenAt := ((lookup "APL_SVARS_UDP_BIND").bind SocketAddress.parse?).getD default.listenAt
  notifyHost := default.notifyHost

/-- The names of the settings, in their order. -/
def fieldNames : List String := ["enabled", "shm_name", "udp_bind", "notify_host"]

/-- The configuration in a JSON text. -/
def parse? (text : String) : Option LocalConfig := do
  match ← (← Json.parse? text).fields? fieldNames with
  | [enabled, segmentName, listenAt, notifyHost] =>
    return {
      enabled := ← Json.Value.orDefault default.enabled Json.Value.bool? enabled
      segmentName := ← Json.Value.orDefault default.segmentName Json.Value.string? segmentName
      listenAt := ← Json.Value.orDefault default.listenAt Json.Value.socketAddress? listenAt
      notifyHost := ← Json.Value.orDefault default.notifyHost Json.Value.ipAddress? notifyHost }
  | _ => none

/-- The JSON text of a configuration. -/
def json (c : LocalConfig) : String :=
  Json.object
    (fieldNames.zip
      [Json.bool c.enabled, Json.string c.segmentName, c.listenAt.json, c.notifyHost.json])

end LocalConfig

end SharedVariables
