import SharedVariables.Address.Lookup
import SharedVariables.Address.Printer
import SharedVariables.Signal.Error
import SharedVariables.Text.Blank

/-!
# Endpoints

A server listens at endpoints: a TCP socket, a Unix socket at a path, or a Unix socket with an
abstract name. `Endpoint.parse` reads the ways in which people write them, and `Endpoint.text` is
the long form of each.
-/

namespace SharedVariables

/-- Where a server listens. -/
inductive Endpoint where
  | tcp (address : SocketAddress)
  | unixPath (path : String)
  | abstractName (name : String)
deriving DecidableEq, Repr

namespace Endpoint

/-- The port of a server unless another one is chosen. -/
def defaultTcpPort : UInt16 := 16366

/-- Where a server listens unless told otherwise. -/
def default : Endpoint := .tcp (.v4 .localhost defaultTcpPort)

/-- The characters behind `word`, if `cs` begin with it. -/
def behind? (word : String) (cs : List Char) : Option (List Char) :=
  if word.toList.isPrefixOf cs then some (cs.drop word.length) else none

/-- The endpoint that a text without blanks around it names. -/
def ofChars? (cs : List Char) : Option Endpoint :=
  match behind? "unix:" cs with
  | some path => if path.isEmpty then none else some (.unixPath (String.ofList path))
  | none =>
    if cs.head? = some '/' then some (.unixPath (String.ofList cs))
    else
      match (behind? "abstract:" cs).or (behind? "@" cs) with
      | some name => if name.isEmpty then none else some (.abstractName (String.ofList name))
      | none =>
        let address := (behind? "tcp:" cs).getD cs
        ((SocketAddress.parse? (String.ofList address)).or (Address.hostAndPort? address)).map .tcp

/-- The endpoint that a text names: `unix:` and a path, or a path that begins with a slash;
`abstract:` or `@` and a name; or a host and a port, with or without `tcp:`. -/
def parse (s : String) : Except SignalError Endpoint :=
  match ofChars? (Text.trimChars s.toList) with
  | some e => .ok e
  | none => .error (.badEndpoint s)

/-- The long form of an endpoint. -/
def text : Endpoint → String
  | .tcp address => "tcp:" ++ address.text
  | .unixPath path => "unix:" ++ path
  | .abstractName name => "abstract:" ++ name

/-- The names that a path leads through: without empty ones and without dots, except for a dot in
front of a path that does not begin at the root. -/
def pathComponents (path : String) : Bool × List (List Char) :=
  let cs := path.toList
  let parts := (Address.splitOn '/' cs).filter fun p => !p.isEmpty
  let rooted := cs.head? == some '/'
  let leadingDot := !rooted && parts.head? == some ['.']
  let named := parts.filter fun p => p != ['.']
  (rooted, if leadingDot then ['.'] :: named else named)

/-- Whether two endpoints are the same; paths are compared by the names they lead through. -/
def Same : Endpoint → Endpoint → Prop
  | .unixPath a, .unixPath b => pathComponents a = pathComponents b
  | a, b => a = b

instance (a b : Endpoint) : Decidable (a.Same b) := by
  unfold Same
  split <;> infer_instance

end Endpoint

end SharedVariables
