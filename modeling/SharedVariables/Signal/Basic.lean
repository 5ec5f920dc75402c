import SharedVariables.Signal.Kind

/-!
# Signals

A signal has the items of its kind. `values` takes them apart and `ofValues` puts them together
again, so that whatever is defined item by item holds for all signals.
-/

namespace SharedVariables

/-- A signal. -/
inductive Signal where
  | makeOffer (key : Key)
  | retractOffer (key : Key)
  | retractVar (key : Key)
  | setState (key : Key) (used : Bool) (loc : String)
  | setControl (key : Key) (control : Control)
  | getValue (key : Key)
  | valueIs (key : Key) (error : UInt32) (errorLoc : String) (value : Bytes)
  | assignValue (key : Key) (value : Bytes)
  | svarAssigned (key : Key) (error : UInt32) (errorLoc : String)
  | mayUse (key : Key) (attempt : Int32)
  | maySet (key : Key) (attempt : Int32)
  | readSvarRecord (key : Key)
  /-- The bytes of a row; none if there is no row. -/
  | svarRecordIs (record : Bytes)
  | isRegisteredId (id : ProcessorId)
  | yesNo (yes : Bool)
  | registerProcessor (id : ProcessorId) (evconn : Bool) (progname : String) (pid : UInt32)
      (port : UInt16)
  | matchOrMake (name : Name) (addressee offering : ProcessorId)
  | matchOrMakeResult (key : Key) (coupling : Coupling)
  | findOfferingId (key : Key)
  | offeringIdIs (id : ProcessorId)
  | getOfferingProcs (addressee : ProcessorNumber)
  | offeringProcsAre (procs : List ProcessorNumber)
  | getOfferedVars (addressee offering : ProcessorNumber)
  | offeredVarsAre (names : List Name)
  | findPairingKey (key : Key)
  | pairingKeyIs (key : Key)
  | getEvents (id : ProcessorId)
  | clearAllEvents (id : ProcessorId)
  | eventsAre (key : Key) (events : Event)
  | addEvent (key : Key) (id : ProcessorId) (event : Event)
  | assignWswsVar (key : Key) (value : Bytes)
  | readWswsVar (key : Key)
  | wswsValueIs (value : Bytes)
  | printSvarDb
  | svarDbPrinted (printout : String)
  | getState (key : Key)
  | stateIs (key : Key) (state : AccessState)
  | getControl (key : Key)
  | controlIs (key : Key) (control : Control)
  | getCoupling (key : Key)
  | couplingIs (key : Key) (coupling : Coupling)
  | unregisterProcessor (id : ProcessorId)
deriving DecidableEq

namespace Signal

open Wire

/-- The error number that stands for success. -/
def noError : UInt32 := 0

/-- The error number that stands for a missing or refused value. -/
def valueError : UInt32 := 3

/-- The kind of a signal. -/
def kind : Signal → SignalKind
  | makeOffer _ => .makeOffer
  | retractOffer _ => .retractOffer
  | retractVar _ => .retractVar
  | setState _ _ _ => .setState
  | setControl _ _ => .setControl
  | getValue _ => .getValue
  | valueIs _ _ _ _ => .valueIs
  | assignValue _ _ => .assignValue
  | svarAssigned _ _ _ => .svarAssigned
  | mayUse _ _ => .mayUse
  | maySet _ _ => .maySet
  | readSvarRecord _ => .readSvarRecord
  | svarRecordIs _ => .svarRecordIs
  | isRegisteredId _ => .isRegisteredId
  | yesNo _ => .yesNo
  | registerProcessor _ _ _ _ _ => .registerProcessor
  | matchOrMake _ _ _ => .matchOrMake
  | matchOrMakeResult _ _ => .matchOrMakeResult
  | findOfferingId _ => .findOfferingId
  | offeringIdIs _ => .offeringIdIs
  | getOfferingProcs _ => .getOfferingProcs
  | offeringProcsAre _ => .offeringProcsAre
  | getOfferedVars _ _ => .getOfferedVars
  | offeredVarsAre _ => .offeredVarsAre
  | findPairingKey _ => .findPairingKey
  | pairingKeyIs _ => .pairingKeyIs
  | getEvents _ => .getEvents
  | clearAllEvents _ => .clearAllEvents
  | eventsAre _ _ => .eventsAre
  | addEvent _ _ _ => .addEvent
  | assignWswsVar _ _ => .assignWswsVar
  | readWswsVar _ => .readWswsVar
  | wswsValueIs _ => .wswsValueIs
  | printSvarDb => .printSvarDb
  | svarDbPrinted _ => .svarDbPrinted
  | getState _ => .getState
  | stateIs _ _ => .stateIs
  | getControl _ => .getControl
  | controlIs _ _ => .controlIs
  | getCoupling _ => .getCoupling
  | couplingIs _ _ => .couplingIs
  | unregisterProcessor _ => .unregisterProcessor

/-- The items of a signal. -/
def values : (s : Signal) → Item.Values s.kind.layout
  | makeOffer key => (key, ())
  | retractOffer key => (key, ())
  | retractVar key => (key, ())
  | setState key used loc => (key, used, loc, ())
  | setControl key control => (key, control, ())
  | getValue key => (key, ())
  | valueIs key error errorLoc value => (key, error, errorLoc, value, ())
  | assignValue key value => (key, value, ())
  | svarAssigned key error errorLoc => (key, error, errorLoc, ())
  | mayUse key attempt => (key, attempt, ())
  | maySet key attempt => (key, attempt, ())
  | readSvarRecord key => (key, ())
  | svarRecordIs record => (record, ())
  | isRegisteredId id => (id, ())
  | yesNo yes => (yes, ())
  | registerProcessor id evconn progname pid port => (id, evconn, progname, pid, port, ())
  | matchOrMake name addressee offering => (name, addressee, offering, ())
  | matchOrMakeResult key coupling => (key, coupling, ())
  | findOfferingId key => (key, ())
  | offeringIdIs id => (id, ())
  | getOfferingProcs addressee => (addressee, ())
  | offeringProcsAre procs => (procs, ())
  | getOfferedVars addressee offering => (addressee, offering, ())
  | offeredVarsAre names => (names, ())
  | findPairingKey key => (key, ())
  | pairingKeyIs key => (key, ())
  | getEvents id => (id, ())
  | clearAllEvents id => (id, ())
  | eventsAre key events => (key, events, ())
  | addEvent key id event => (key, id, event, ())
  | assignWswsVar key value => (key, value, ())
  | readWswsVar key => (key, ())
  | wswsValueIs value => (value, ())
  | printSvarDb => ()
  | svarDbPrinted printout => (printout, ())
  | getState key => (key, ())
  | stateIs key state => (key, state, ())
  | getControl key => (key, ())
  | controlIs key control => (key, control, ())
  | getCoupling key => (key, ())
  | couplingIs key coupling => (key, coupling, ())
  | unregisterProcessor id => (id, ())

/-- The signal of a kind with the given items. -/
def ofValues : (k : SignalKind) → Item.Values k.layout → Signal
  | .makeOffer, (key, ()) => .makeOffer key
  | .retractOffer, (key, ()) => .retractOffer key
  | .retractVar, (key, ()) => .retractVar key
  | .setState, (key, used, loc, ()) => .setState key used loc
  | .setControl, (key, control, ()) => .setControl key control
  | .getValue, (key, ()) => .getValue key
  | .valueIs, (key, error, errorLoc, value, ()) => .valueIs key error errorLoc value
  | .assignValue, (key, value, ()) => .assignValue key value
  | .svarAssigned, (key, error, errorLoc, ()) => .svarAssigned key error errorLoc
  | .mayUse, (key, attempt, ()) => .mayUse key attempt
  | .maySet, (key, attempt, ()) => .maySet key attempt
  | .readSvarRecord, (key, ()) => .readSvarRecord key
  | .svarRecordIs, (record, ()) => .svarRecordIs record
  | .isRegisteredId, (id, ()) => .isRegisteredId id
  | .yesNo, (yes, ()) => .yesNo yes
  | .registerProcessor, (id, evconn, progname, pid, port, ()) =>
    .registerProcessor id evconn progname pid port
  | .matchOrMake, (name, addressee, offering, ()) => .matchOrMake name addressee offering
  | .matchOrMakeResult, (key, coupling, ()) => .matchOrMakeResult key coupling
  | .findOfferingId, (key, ()) => .findOfferingId key
  | .offeringIdIs, (id, ()) => .offeringIdIs id
  | .getOfferingProcs, (addressee, ()) => .getOfferingProcs addressee
  | .offeringProcsAre, (procs, ()) => .offeringProcsAre procs
  | .getOfferedVars, (addressee, offering, ()) => .getOfferedVars addressee offering
  | .offeredVarsAre, (names, ()) => .offeredVarsAre names
  | .findPairingKey, (key, ()) => .findPairingKey key
  | .pairingKeyIs, (key, ()) => .pairingKeyIs key
  | .getEvents, (id, ()) => .getEvents id
  | .clearAllEvents, (id, ()) => .clearAllEvents id
  | .eventsAre, (key, events, ()) => .eventsAre key events
  | .addEvent, (key, id, event, ()) => .addEvent key id event
  | .assignWswsVar, (key, value, ()) => .assignWswsVar key value
  | .readWswsVar, (key, ()) => .readWswsVar key
  | .wswsValueIs, (value, ()) => .wswsValueIs value
  | .printSvarDb, () => .printSvarDb
  | .svarDbPrinted, (printout, ()) => .svarDbPrinted printout
  | .getState, (key, ()) => .getState key
  | .stateIs, (key, state, ()) => .stateIs key state
  | .getControl, (key, ()) => .getControl key
  | .controlIs, (key, control, ()) => .controlIs key control
  | .getCoupling, (key, ()) => .getCoupling key
  | .couplingIs, (key, coupling, ()) => .couplingIs key coupling
  | .unregisterProcessor, (id, ()) => .unregisterProcessor id

theorem ofValues_values (s : Signal) : ofValues s.kind s.values = s := by cases s <;> rfl

/-- The kind of signal that answers this one, if it is answered. -/
def answer? (s : Signal) : Option SignalKind := s.kind.answer?

/-- A signal for people: its name and its items. -/
def text (s : Signal) : String :=
  s.kind.name ++ "(" ++ ", ".intercalate (Item.displayAll s.kind.layout s.values) ++ ")"

end Signal

end SharedVariables
