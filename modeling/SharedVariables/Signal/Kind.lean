import SharedVariables.Wire.Item

/-!
# Kinds of signals

A processor and the registry server exchange signals. Each kind of signal has a number, a name and a
layout: the items that follow the number on the wire. Most requests are answered by a signal of one
fixed kind; the others are one-way.
-/

namespace SharedVariables

/-- The kinds of signals, in the order of their numbers. -/
inductive SignalKind where
  | makeOffer
  | retractOffer
  | retractVar
  | setState
  | setControl
  | getValue
  | valueIs
  | assignValue
  | svarAssigned
  | mayUse
  | maySet
  | readSvarRecord
  | svarRecordIs
  | isRegisteredId
  | yesNo
  | registerProcessor
  | matchOrMake
  | matchOrMakeResult
  | findOfferingId
  | offeringIdIs
  | getOfferingProcs
  | offeringProcsAre
  | getOfferedVars
  | offeredVarsAre
  | findPairingKey
  | pairingKeyIs
  | getEvents
  | clearAllEvents
  | eventsAre
  | addEvent
  | assignWswsVar
  | readWswsVar
  | wswsValueIs
  | printSvarDb
  | svarDbPrinted
  | getState
  | stateIs
  | getControl
  | controlIs
  | getCoupling
  | couplingIs
  | unregisterProcessor
deriving DecidableEq, Repr

namespace SignalKind

/-- Every kind, in the order of the numbers. -/
def all : List SignalKind :=
  [makeOffer, retractOffer, retractVar, setState, setControl, getValue, valueIs, assignValue,
    svarAssigned, mayUse, maySet, readSvarRecord, svarRecordIs, isRegisteredId, yesNo,
    registerProcessor, matchOrMake, matchOrMakeResult, findOfferingId, offeringIdIs,
    getOfferingProcs, offeringProcsAre, getOfferedVars, offeredVarsAre, findPairingKey,
    pairingKeyIs, getEvents, clearAllEvents, eventsAre, addEvent, assignWswsVar, readWswsVar,
    wswsValueIs, printSvarDb, svarDbPrinted, getState, stateIs, getControl, controlIs, getCoupling,
    couplingIs, unregisterProcessor]

/-- The number of a kind. -/
def code (k : SignalKind) : Nat := all.idxOf k

/-- The kind with a given number. -/
def ofCode? (code : Nat) : Option SignalKind := all[code]?

/-- The name of a kind. -/
def name : SignalKind → String
  | makeOffer => "MAKE_OFFER"
  | retractOffer => "RETRACT_OFFER"
  | retractVar => "RETRACT_VAR"
  | setState => "SET_STATE"
  | setControl => "SET_CONTROL"
  | getValue => "GET_VALUE"
  | valueIs => "VALUE_IS"
  | assignValue => "ASSIGN_VALUE"
  | svarAssigned => "SVAR_ASSIGNED"
  | mayUse => "MAY_USE"
  | maySet => "MAY_SET"
  | readSvarRecord => "READ_SVAR_RECORD"
  | svarRecordIs => "SVAR_RECORD_IS"
  | isRegisteredId => "IS_REGISTERED_ID"
  | yesNo => "YES_NO"
  | registerProcessor => "REGISTER_PROCESSOR"
  | matchOrMake => "MATCH_OR_MAKE"
  | matchOrMakeResult => "MATCH_OR_MAKE_RESULT"
  | findOfferingId => "FIND_OFFERING_ID"
  | offeringIdIs => "OFFERING_ID_IS"
  | getOfferingProcs => "GET_OFFERING_PROCS"
  | offeringProcsAre => "OFFERING_PROCS_ARE"
  | getOfferedVars => "GET_OFFERED_VARS"
  | offeredVarsAre => "OFFERED_VARS_ARE"
  | findPairingKey => "FIND_PAIRING_KEY"
  | pairingKeyIs => "PAIRING_KEY_IS"
  | getEvents => "GET_EVENTS"
  | clearAllEvents => "CLEAR_ALL_EVENTS"
  | eventsAre => "EVENTS_ARE"
  | addEvent => "ADD_EVENT"
  | assignWswsVar => "ASSIGN_WSWS_VAR"
  | readWswsVar => "READ_WSWS_VAR"
  | wswsValueIs => "WSWS_VALUE_IS"
  | printSvarDb => "PRINT_SVAR_DB"
  | svarDbPrinted => "SVAR_DB_PRINTED"
  | getState => "GET_STATE"
  | stateIs => "STATE_IS"
  | getControl => "GET_CONTROL"
  | controlIs => "CONTROL_IS"
  | getCoupling => "GET_COUPLING"
  | couplingIs => "COUPLING_IS"
  | unregisterProcessor => "UNREGISTER_PROCESSOR"

open Wire Item in
/-- The items that make up a signal of each kind. -/
abbrev layout : SignalKind → List Item
  | makeOffer => [.key]
  | retractOffer => [.key]
  | retractVar => [.key]
  | setState => [.key, .flag, .text]
  | setControl => [.key, .control]
  | getValue => [.key]
  | valueIs => [.key, .word, .text, .blob]
  | assignValue => [.key, .blob]
  | svarAssigned => [.key, .word, .text]
  | mayUse => [.key, .number]
  | maySet => [.key, .number]
  | readSvarRecord => [.key]
  | svarRecordIs => [.blob]
  | isRegisteredId => [.id]
  | yesNo => [.flag]
  | registerProcessor => [.id, .flag, .text, .word, .port]
  | matchOrMake => [.name, .id, .id]
  | matchOrMakeResult => [.key, .coupling]
  | findOfferingId => [.key]
  | offeringIdIs => [.id]
  | getOfferingProcs => [.number]
  | offeringProcsAre => [.numbers]
  | getOfferedVars => [.number, .number]
  | offeredVarsAre => [.names]
  | findPairingKey => [.key]
  | pairingKeyIs => [.key]
  | getEvents => [.id]
  | clearAllEvents => [.id]
  | eventsAre => [.key, .events]
  | addEvent => [.key, .id, .events]
  | assignWswsVar => [.key, .blob]
  | readWswsVar => [.key]
  | wswsValueIs => [.blob]
  | printSvarDb => []
  | svarDbPrinted => [.listing]
  | getState => [.key]
  | stateIs => [.key, .state]
  | getControl => [.key]
  | controlIs => [.key, .control]
  | getCoupling => [.key]
  | couplingIs => [.key, .coupling]
  | unregisterProcessor => [.id]

/-- The names of the items that make up a signal of each kind. -/
def itemNames : SignalKind → List String
  | setState => ["key", "used", "loc"]
  | setControl | controlIs => ["key", "control"]
  | valueIs => ["key", "error", "error_loc", "value"]
  | assignValue | assignWswsVar => ["key", "value"]
  | svarAssigned => ["key", "error", "error_loc"]
  | mayUse | maySet => ["key", "attempt"]
  | svarRecordIs => ["record"]
  | isRegisteredId | offeringIdIs | getEvents | clearAllEvents | unregisterProcessor => ["id"]
  | yesNo => ["yes"]
  | registerProcessor => ["id", "evconn", "progname", "pid", "port"]
  | matchOrMake => ["name", "to", "from"]
  | matchOrMakeResult | couplingIs => ["key", "coupling"]
  | getOfferingProcs => ["to_proc"]
  | offeringProcsAre => ["procs"]
  | getOfferedVars => ["to_proc", "from_proc"]
  | offeredVarsAre => ["names"]
  | eventsAre => ["key", "events"]
  | addEvent => ["key", "id", "event"]
  | wswsValueIs => ["value"]
  | printSvarDb => []
  | svarDbPrinted => ["printout"]
  | stateIs => ["key", "state"]
  | makeOffer | retractOffer | retractVar | getValue | readSvarRecord | findOfferingId
  | findPairingKey | pairingKeyIs | readWswsVar | getState | getControl | getCoupling => ["key"]

/-- The kind of signal that answers a request; the other kinds are not answered. -/
def answer? : SignalKind → Option SignalKind
  | retractVar | getCoupling => some couplingIs
  | getValue => some valueIs
  | assignValue => some svarAssigned
  | mayUse | maySet | isRegisteredId | registerProcessor => some yesNo
  | readSvarRecord => some svarRecordIs
  | matchOrMake => some matchOrMakeResult
  | findOfferingId => some offeringIdIs
  | getOfferingProcs => some offeringProcsAre
  | getOfferedVars => some offeredVarsAre
  | findPairingKey => some pairingKeyIs
  | getEvents | clearAllEvents => some eventsAre
  | readWswsVar => some wswsValueIs
  | printSvarDb => some svarDbPrinted
  | getState => some stateIs
  | getControl | setControl => some controlIs
  | _ => none

/-- The kind with a given name. -/
def ofName? (name : String) : Option SignalKind := all.find? fun k => k.name == name

theorem ofCode?_code (k : SignalKind) : ofCode? k.code = some k := by cases k <;> rfl

theorem code_of_ofCode? {n : Nat} {k : SignalKind} (h : ofCode? n = some k) : k.code = n := by
  obtain ⟨hn, rfl⟩ := List.getElem?_eq_some_iff.1 h
  revert hn
  revert n
  decide

end SignalKind

end SharedVariables
