import SharedVariables.Config.Server

/-!
# Starting a server

A server checks its configuration and then takes its endpoints one after the other. An old socket at
the path of an endpoint is replaced; anything else that lies there keeps the server from starting.
-/

namespace SharedVariables

/-- Why a server does not start. -/
inductive ServerError where
  /-- The configuration is refused. -/
  | config (error : ConfigError)
  /-- An endpoint cannot be taken. -/
  | bind (endpoint : Endpoint)
deriving DecidableEq, Repr

namespace ServerError

/-- The name of a cause. -/
def name : ServerError → String
  | .config _ => "Config"
  | .bind _ => "Bind"

/-- The text of an error; why an endpoint cannot be taken is for the host to say. -/
def message : ServerError → String
  | .config error => error.message
  | .bind _ => ""

end ServerError

/-- Takes the endpoints of a configuration, where `blocked` tells which cannot be taken. -/
def ServerConfig.listen (c : ServerConfig) (blocked : Endpoint → Bool) :
    Except ServerError (List Endpoint) :=
  match c.validate with
  | .error e => .error (.config e)
  | .ok () =>
    match c.endpoints.find? blocked with
    | some e => .error (.bind e)
    | none => .ok c.endpoints

end SharedVariables
