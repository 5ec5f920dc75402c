import SharedVariables.Server.Basic
import SharedVariables.Signal.Basic
import SharedVariables.Signal.Payload
import SharedVariables.Store

/-!
# Sessions

A session is the server's side of one connection. A client introduces itself by registering a
processor, which binds the session to that identity for good; from then on the session acts for that
processor alone. An unbound session may look around but shares nothing. When a session ends, all
that its processor shares is retracted and its registration is removed.

`Session.dispatch` answers one signal.
-/

namespace SharedVariables

/-- The server's side of a connection. -/
structure Session where
  /-- The processor that the session acts for. -/
  me : Option Partner
deriving DecidableEq, Repr

/-- Why a signal is not answered. -/
inductive DispatchError where
  /-- Clients do not send answers. -/
  | notARequest (kind : SignalKind)
deriving DecidableEq, Repr

/-- The name of a cause. -/
def DispatchError.name : DispatchError → String
  | .notARequest _ => "UnexpectedSignal"

/-- The text of an error. -/
def DispatchError.message : DispatchError → String
  | .notARequest kind => s!"client sent {kind.name}, which is not a request"

/-- The state after a signal: its reply if it has one, the session and the server, and the
notifications to be sent. -/
structure Dispatched where
  reply : Option Signal
  session : Session
  server : Server
  notices : List Notice

namespace Session

/-- The session of a connection whose client has not introduced itself. -/
def unbound : Session := ⟨none⟩

/-- A signal that changes nothing. Values of variables that are gone are dropped here as after any other
signal, also if the signal is refused before anything is looked up; a server that has come about by
signals keeps no such values, and stays as it is. -/
def idle (s : Session) (server : Server) (reply : Option Signal) : Dispatched :=
  ⟨reply, s, server.prune, []⟩

/-- A signal that does `outcome` to the registry and is answered from its value. -/
def operate {α : Type} (s : Session) (server : Server) (outcome : Outcome α)
    (reply : α → Option Signal) : Dispatched :=
  ⟨reply outcome.value, s, server.withRegistry outcome.registry, outcome.notices⟩

/-- A signal that does what `act` does for the processor of the session, and that is answered from
the value; `refused` is the value for an unbound session. -/
def operateBound {α : Type} (s : Session) (server : Server) (act : Partner → Outcome α)
    (refused : α) (reply : α → Option Signal) : Dispatched :=
  match s.me with
  | some me => s.operate server (act me) reply
  | none => s.idle server (reply refused)

/-- Whether the processor of the session is a side of the variable `key`. -/
def isSide (s : Session) (server : Server) (key : Key) : Bool :=
  match s.me with
  | some me => (server.registry.callerRow key me.id).isSome
  | none => false

/-- Registers a processor, unless the session is bound to another one, and binds the session to
it. -/
def register (s : Session) (server : Server) (id : ProcessorId) (pid : UInt32) (port : UInt16) :
    Dispatched :=
  if s.me.all fun me => me.id = id then
    let outcome := server.registry.registerProcessor id pid port
    let bound := if outcome.value then ⟨some (.ofProcess id pid port)⟩ else s
    bound.operate server outcome fun yes => some (.yesNo yes)
  else s.idle server (some (.yesNo false))

/-- The port at which the other partner of the variable `key` can be told something. -/
def peerPort (r : Registry) (key : Key) (id : ProcessorId) : UInt16 :=
  match r.callerRow key id with
  | some (i, side) => r.noticePort ((r.rows.get i).partner side.other)
  | none => 0

/-- Passes a notification on to the other partner of the variable `key`. -/
def forward (s : Session) (server : Server) (key : Key) (kind : NoticeKind) : Dispatched :=
  match s.me with
  | some me =>
    ⟨none, s, server.prune, notify (peerPort server.registry key me.id) kind key⟩
  | none => s.idle server none

/-- The answer to a request for the value of a variable. -/
def valueReply (key : Key) : Option Bytes → Signal
  | some bytes => .valueIs key Signal.noError "" bytes
  | none => .valueIs key Signal.valueError "GET_VALUE" []

/-- Keeps the value of a variable that the processor of the session is a side of. -/
def assignValue (s : Session) (server : Server) (key : Key) (bytes : Bytes) : Dispatched :=
  if s.isSide server key then
    ⟨some (.svarAssigned key Signal.noError ""), s,
      { server with values := server.values.insert key bytes }.prune, []⟩
  else s.idle server (some (.svarAssigned key Signal.valueError "ASSIGN_VALUE"))

/-- Keeps the bytes that a workspace gives away under a variable that the processor of the session
is a side of. -/
def assignExchanged (s : Session) (server : Server) (key : Key) (bytes : Bytes) : Dispatched :=
  if s.isSide server key then
    ⟨none, s, { server with exchanged := server.exchanged.insert key bytes }.prune, []⟩
  else s.idle server none

/-- Removes the registration of the processor of the session, and of no other. -/
def unregister (s : Session) (server : Server) (id : ProcessorId) : Dispatched :=
  if s.me.any fun me => me.id = id then
    s.operate server (server.registry.unregisterProcessor id) fun _ => none
  else s.idle server none

/-- Shares a variable on behalf of the processor of the session, and of no other. -/
def share (s : Session) (server : Server) (name : Name) (addressee offering : ProcessorId) :
    Dispatched :=
  let reply (shared : Key × Coupling) : Option Signal := some (.matchOrMakeResult shared.1 shared.2)
  match s.me with
  | some me =>
    if me.id = offering then s.operate server (server.registry.share name addressee me) reply
    else s.idle server (reply (.none, .none))
  | none => s.idle server (reply (.none, .none))

/-- Answers one signal. -/
def dispatch (s : Session) (server : Server) (signal : Signal) : Except DispatchError Dispatched :=
  let r := server.registry
  let answered (reply : Signal) : Except DispatchError Dispatched :=
    .ok (s.idle server (some reply))
  match signal with
  | .registerProcessor id _ _ pid port => .ok (s.register server id pid port)
  | .unregisterProcessor id => .ok (s.unregister server id)
  | .isRegisteredId id => answered (.yesNo (r.isRegistered id))
  | .matchOrMake name addressee offering => .ok (s.share server name addressee offering)
  | .makeOffer key => .ok (s.forward server key .makeOffer)
  | .retractOffer key => .ok (s.forward server key .retractOffer)
  | .retractVar key =>
    .ok (s.operateBound server (fun me => r.retract key me.id) .none
      fun c => some (.couplingIs key c))
  | .getCoupling key => answered (.couplingIs key (r.coupling key))
  | .getState key => answered (.stateIs key (r.getState key))
  | .setState key used _ =>
    .ok (s.operateBound server (fun me => r.setState key me.id used) () fun _ => none)
  | .getControl key =>
    .ok (s.operateBound server (fun me => r.unchanged (r.getControl key me.id)) .none
      fun c => some (.controlIs key c))
  | .setControl key control =>
    .ok (s.operateBound server (fun me => r.setControl key me.id control) .none
      fun c => some (.controlIs key c))
  | .mayUse key attempt =>
    .ok (s.operateBound server (fun me => r.mayUse key me.id attempt) false
      fun yes => some (.yesNo yes))
  | .maySet key attempt =>
    .ok (s.operateBound server (fun me => r.maySet key me.id attempt) false
      fun yes => some (.yesNo yes))
  | .getValue key => answered (valueReply key (server.values.get? key))
  | .assignValue key bytes => .ok (s.assignValue server key bytes)
  | .assignWswsVar key bytes => .ok (s.assignExchanged server key bytes)
  | .readWswsVar key => answered (.wswsValueIs ((server.exchanged.get? key).getD []))
  | .readSvarRecord key => answered (.svarRecordIs (encodeRecord (r.getVar key)))
  | .findOfferingId key => answered (.offeringIdIs (r.findOfferingId key))
  | .getOfferingProcs addressee => answered (.offeringProcsAre (r.offeringProcessors addressee))
  | .getOfferedVars addressee offering =>
    answered (.offeredVarsAre (r.offeredVariables addressee offering))
  | .findPairingKey key => answered (.pairingKeyIs (r.pairingKey key Name.isPair))
  | .getEvents id => answered (.eventsAre (r.getEvents id).1 (r.getEvents id).2)
  | .clearAllEvents id =>
    .ok (s.operate server (r.clearAllEvents id) fun events => some (.eventsAre .none events))
  | .addEvent key id event =>
    .ok (if event.isEmpty then s.idle server none
      else s.operate server (r.addEvent event id key) fun _ => none)
  | .printSvarDb => answered (.svarDbPrinted r.report)
  | other => .error (.notARequest other.kind)

/-- Ends a session. Ending it again does nothing, for it is unbound then. -/
def finish (s : Session) (server : Server) : Dispatched :=
  match s.me with
  | some me => unbound.operate server (server.registry.leave me.id) fun _ => none
  | none => ⟨none, unbound, server, []⟩

end Session

end SharedVariables
