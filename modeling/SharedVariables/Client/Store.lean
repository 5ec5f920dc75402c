import SharedVariables.Client.Basic
import SharedVariables.Signal.Payload
import SharedVariables.Store
import SharedVariables.Wait

/-!
# The registry behind a server

A client makes the calls of a processor by sending signals. A call that has an answer is a request,
the others are one-way; when the connection fails the answer is the neutral one. Beyond the calls,
which any registry answers, a client reads rows and exchanges the values of variables.
-/

namespace SharedVariables

namespace StoreCall

/-- The signal for a call of `me`, whose program is called `progname`. -/
def signal (me : Partner) (progname : String) : StoreCall → Signal
  | register => .registerProcessor me.id false progname me.pid me.port
  | unregister => .unregisterProcessor me.id
  | isRegistered id => .isRegisteredId id
  | matchOrMake name addressee => .matchOrMake name addressee me.id
  | retract key => .retractVar key
  | coupling key => .getCoupling key
  | getState key => .getState key
  | setState key used => .setState key used (if used then "read" else "write")
  | getControl key => .getControl key
  | setControl key control => .setControl key control
  | mayUse key attempt => .mayUse key attempt
  | maySet key attempt => .maySet key attempt
  | getEvents => .getEvents me.id
  | clearAllEvents => .clearAllEvents me.id
  | addEvent event addressee key => .addEvent key addressee event
  | offeringProcessors => .getOfferingProcs me.id.proc
  | offeredVariables offering => .getOfferedVars me.id.proc offering
  | findOfferingId key => .findOfferingId key
  | pairingKey key => .findPairingKey key
  | report => .printSvarDb

/-- The answer to a call that a reply holds. -/
def unpack? : (call : StoreCall) → Signal → Option call.Answer
  | register, .yesNo yes => some yes
  | isRegistered _, .yesNo yes => some yes
  | matchOrMake _ _, .matchOrMakeResult key c => some (key, c)
  | retract _, .couplingIs _ c => some c
  | coupling _, .couplingIs _ c => some c
  | getState _, .stateIs _ state => some state
  | getControl _, .controlIs _ c => some c
  | setControl _ _, .controlIs _ c => some c
  | mayUse _ _, .yesNo yes => some yes
  | maySet _ _, .yesNo yes => some yes
  | getEvents, .eventsAre key events => some (key, events)
  | clearAllEvents, .eventsAre _ events => some events
  | offeringProcessors, .offeringProcsAre procs => some procs
  | offeredVariables _, .offeredVarsAre names => some names
  | findOfferingId _, .offeringIdIs id => some id
  | pairingKey _, .pairingKeyIs key => some key
  | report, .svarDbPrinted printout => some printout
  | _, _ => none

end StoreCall

namespace Client

variable {σ : Type} [Peer σ]

/-- Sends a request and gives what `unpack?` finds in the answer, or `neutral`. -/
def ask {α : Type} (c : Client σ) (s : Signal) (neutral : α) (unpack? : Signal → Option α) :
    α × Client σ :=
  match c.request s with
  | (.ok reply, c) => ((unpack? reply).getD neutral, c)
  | (.error _, c) => (neutral, c)

/-- Sends a one-way signal, and lets it go if that fails. -/
def post (c : Client σ) (s : Signal) : Client σ := (c.send s).2

/-- Makes a call. -/
def call (c : Client σ) (call : StoreCall) : call.Answer × Client σ :=
  let s := call.signal c.me c.config.progname
  if s.answer?.isSome then c.ask s call.neutral call.unpack? else (call.neutral, c.post s)

/-- The row of the variable `key`. -/
def readRecord (c : Client σ) (key : Key) : Option Row × Client σ :=
  c.ask (.readSvarRecord key) none fun
    | .svarRecordIs record => some ((decodeRecord record).toOption.getD none)
    | _ => none

/-! ## Values -/

/-- Waits until the client may set the variable `key`. -/
def waitMaySet (c : Client σ) (key : Key) (policy : RetryPolicy) (clock : List Duration) :
    Option Bool × Client σ :=
  waitUntil policy (fun attempt c => c.call (.maySet key attempt)) clock c

/-- Waits until the client may use the variable `key`. -/
def waitMayUse (c : Client σ) (key : Key) (policy : RetryPolicy) (clock : List Duration) :
    Option Bool × Client σ :=
  waitUntil policy (fun attempt c => c.call (.mayUse key attempt)) clock c

/-- Sets the value of the variable `key` as soon as that is allowed. The answer tells whether the
value was taken; it is `none` as long as the client waits. -/
def assignValue (c : Client σ) (key : Key) (value : Bytes) (policy : RetryPolicy)
    (clock : List Duration) : Option Bool × Client σ :=
  match c.waitMaySet key policy clock with
  | (some true, c) =>
    let c := (c.call (.setState key false)).2
    let (stored, c) := c.ask (.assignValue key value) false fun
      | .svarAssigned _ error _ => some (error == Signal.noError)
      | _ => none
    (some stored, c)
  | (waited, c) => (waited, c)

/-- Uses the value of the variable `key` as soon as that is allowed; the client has used it if there
is one. The answer is `none` as long as the client waits. -/
def readValue (c : Client σ) (key : Key) (policy : RetryPolicy) (clock : List Duration) :
    Option (Option Bytes) × Client σ :=
  match c.waitMayUse key policy clock with
  | (some true, c) =>
    let (value, c) := c.ask (.getValue key) none fun
      | .valueIs _ error _ value => if error = Signal.noError then some (some value) else none
      | _ => none
    match value with
    | some value => (some (some value), (c.call (.setState key true)).2)
    | none => (some none, c)
  | (some false, c) => (some none, c)
  | (none, c) => (none, c)

/-- Gives bytes away under the variable `key`, without access control. -/
def assignExchanged (c : Client σ) (key : Key) (value : Bytes) : Client σ :=
  c.post (.assignWswsVar key value)

/-- The bytes that were given away under the variable `key`. -/
def readExchanged (c : Client σ) (key : Key) : Bytes × Client σ :=
  c.ask (.readWswsVar key) [] fun
    | .wswsValueIs value => some value
    | _ => none

end Client

end SharedVariables
