import SharedVariables.Text.Hex

/-!
# Events

What can happen to a shared variable is told to its partners as events. The events that are pending
for a processor form a set of 32 bits, seven of which have a name.
-/

namespace SharedVariables

/-- A set of events. -/
structure Event where
  bits : UInt32
deriving DecidableEq, Repr

namespace Event

/-- No event. -/
def none : Event := ⟨0⟩

/-- An offer has been matched. -/
def offerMatched : Event := ⟨0x01⟩

/-- The other partner has retracted. -/
def offerRetracted : Event := ⟨0x02⟩

/-- The other partner has changed its control bits. -/
def accessControlChanged : Event := ⟨0x04⟩

/-- The other partner has set the variable. -/
def setSuccess : Event := ⟨0x08⟩

/-- The other partner was kept from setting the variable. -/
def setFailed : Event := ⟨0x10⟩

/-- The other partner has used the variable. -/
def useSuccess : Event := ⟨0x20⟩

/-- The other partner was kept from using the variable. -/
def useFailed : Event := ⟨0x40⟩

/-- The events that have a name, lowest bit first. -/
def named : List (Event × String) :=
  [(offerMatched, "OfferMatched"), (offerRetracted, "OfferRetracted"),
    (accessControlChanged, "AccessControlChanged"), (setSuccess, "SetSuccess"),
    (setFailed, "SetFailed"), (useSuccess, "UseSuccess"), (useFailed, "UseFailed")]

/-- Whether a set holds no event. -/
def isEmpty (e : Event) : Bool := e == none

/-- The events of either set. -/
def union (a b : Event) : Event := ⟨a.bits ||| b.bits⟩

/-- Whether `b` holds an event and all its events are in `a`. -/
def contains (a b : Event) : Bool := !b.isEmpty && a.bits &&& b.bits == b.bits

/-- The names of the events in a set with bars between them, and in the end the number of the bits
that have no name. -/
def text (e : Event) : String :=
  let names := (named.filter fun (event, _) => e.contains event).map Prod.snd
  let nameless := e.bits &&& 0xFFFFFF80
  let parts := if nameless = 0 then names else names ++ ["0x" ++ Text.hexUpper 1 nameless.toNat]
  if e.isEmpty then "none" else "|".intercalate parts

end Event

end SharedVariables
