import SharedVariables.Registry.Access
import SharedVariables.Registry.Directory
import SharedVariables.Registry.Offer
import SharedVariables.Registry.Report
import SharedVariables.Registry.Retract

/-!
# Calls to the registry

What a processor can ask of a registry, be it in the memory of its own host or behind a server.
Every call has an answer, since a registry that cannot be reached gives the neutral one.
`Registry.answer` is how a registry at hand answers.
-/

namespace SharedVariables

/-- A call of a processor to a registry. -/
inductive StoreCall where
  /-- Registers the caller; the answer tells whether it is registered now. -/
  | register
  /-- Retracts all that the caller shares and removes its registration. -/
  | unregister
  | isRegistered (id : ProcessorId)
  /-- Offers a variable, or accepts an offer. -/
  | matchOrMake (name : Name) (addressee : ProcessorId)
  /-- Retracts a variable; the answer is the coupling before. -/
  | retract (key : Key)
  | coupling (key : Key)
  | getState (key : Key)
  | setState (key : Key) (used : Bool)
  | getControl (key : Key)
  | setControl (key : Key) (control : Control)
  | mayUse (key : Key) (attempt : Int32)
  | maySet (key : Key) (attempt : Int32)
  | getEvents
  | clearAllEvents
  | addEvent (event : Event) (addressee : ProcessorId) (key : Key)
  /-- Who has offers to the caller pending. -/
  | offeringProcessors
  /-- The names that a processor offers to the caller. -/
  | offeredVariables (offering : ProcessorNumber)
  | findOfferingId (key : Key)
  /-- The variable that is the other half of a compound one. -/
  | pairingKey (key : Key)
  | report
deriving DecidableEq

namespace StoreCall

/-- What the answer to a call is. -/
abbrev Answer : StoreCall → Type
  | register => Bool
  | unregister => Unit
  | isRegistered _ => Bool
  | matchOrMake _ _ => Key × Coupling
  | retract _ => Coupling
  | coupling _ => Coupling
  | getState _ => AccessState
  | setState _ _ => Unit
  | getControl _ => Control
  | setControl _ _ => Control
  | mayUse _ _ => Bool
  | maySet _ _ => Bool
  | getEvents => Key × Event
  | clearAllEvents => Event
  | addEvent _ _ _ => Unit
  | offeringProcessors => List ProcessorNumber
  | offeredVariables _ => List Name
  | findOfferingId _ => ProcessorId
  | pairingKey _ => Key
  | report => String

/-- The answer to a call when no registry can be reached. -/
def neutral : (call : StoreCall) → call.Answer
  | register => false
  | unregister => ()
  | isRegistered _ => false
  | matchOrMake _ _ => (.none, .none)
  | retract _ => .none
  | coupling _ => .none
  | getState _ => .notShared
  | setState _ _ => ()
  | getControl _ => .none
  | setControl _ _ => .none
  | mayUse _ _ => false
  | maySet _ _ => false
  | getEvents => (.none, .none)
  | clearAllEvents => .none
  | addEvent _ _ _ => ()
  | offeringProcessors => []
  | offeredVariables _ => []
  | findOfferingId _ => .null
  | pairingKey _ => .none
  | report => ""

end StoreCall

namespace Registry

/-- Shares a variable on behalf of `p`; an offer that cannot be made gives no key. -/
def share (r : Registry) (name : Name) (addressee : ProcessorId) (p : Partner) :
    Outcome (Key × Coupling) :=
  (r.matchOrMake name addressee p).map fun shared => shared.toOption.getD (.none, .none)

/-- Retracts the processor `id` from all variables and removes its registration. -/
def leave (r : Registry) (id : ProcessorId) : Outcome Unit :=
  (r.retractAllBy id).andThen fun _ r => (r.unregisterProcessor id).map fun _ => ()

/-- How a registry answers a call of `me`. -/
def answer (r : Registry) (me : Partner) : (call : StoreCall) → Outcome call.Answer
  | .register => r.registerProcessor me.id me.pid me.port
  | .unregister => r.leave me.id
  | .isRegistered id => r.unchanged (r.isRegistered id)
  | .matchOrMake name addressee => r.share name addressee me
  | .retract key => r.retract key me.id
  | .coupling key => r.unchanged (r.coupling key)
  | .getState key => r.unchanged (r.getState key)
  | .setState key used => r.setState key me.id used
  | .getControl key => r.unchanged (r.getControl key me.id)
  | .setControl key control => r.setControl key me.id control
  | .mayUse key attempt => r.mayUse key me.id attempt
  | .maySet key attempt => r.maySet key me.id attempt
  | .getEvents => r.unchanged (r.getEvents me.id)
  | .clearAllEvents => r.clearAllEvents me.id
  | .addEvent event addressee key => r.addEvent event addressee key
  | .offeringProcessors => r.unchanged (r.offeringProcessors me.id.proc)
  | .offeredVariables offering => r.unchanged (r.offeredVariables me.id.proc offering)
  | .findOfferingId key => r.unchanged (r.findOfferingId key)
  | .pairingKey key => r.unchanged (r.pairingKey key Name.isPair)
  | .report => r.unchanged r.report

end Registry

end SharedVariables
