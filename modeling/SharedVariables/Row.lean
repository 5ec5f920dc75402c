import SharedVariables.Event
import SharedVariables.Key
import SharedVariables.Name
import SharedVariables.Partner

/-!
# Rows

A row holds one shared variable: its key, its two sides, the code of its access state and its name.
The offering side is the one that was present first. While a variable is only offered, the accepting
side is absent and names the processor that the offer is addressed to.
-/

namespace SharedVariables

/-- The two sides of a row. -/
inductive Side where
  | offering
  | accepting
deriving DecidableEq, Repr

namespace Side

/-- The opposite side. -/
def other : Side → Side
  | .offering => .accepting
  | .accepting => .offering

/-- The name of a side. -/
def text : Side → String
  | .offering => "Offering"
  | .accepting => "Accepting"

end Side

/-- One shared variable. -/
structure Row where
  key : Key
  offering : Partner
  accepting : Partner
  /-- The code of the access state; any byte is allowed. -/
  stateCode : UInt8
  name : Name
deriving DecidableEq

namespace Row

/-- The row that holds no variable. -/
def empty : Row := ⟨.none, .empty, .empty, 0, .empty⟩

/-- The row of a fresh offer of `offering` to `addressee`. -/
def offer (key : Key) (name : Name) (offering : Partner) (addressee : ProcessorId) : Row :=
  ⟨key, offering, .target addressee, AccessState.notShared.code, name⟩

/-- Whether a row holds no variable. -/
def Free (r : Row) : Prop := r.key.IsNone

instance (r : Row) : Decidable r.Free := inferInstanceAs (Decidable r.key.IsNone)

/-- How far the variable is shared. -/
def coupling (r : Row) : Coupling := .ofSides r.offering r.accepting

/-- Whom a pending offer is addressed to. -/
def target (r : Row) : ProcessorId := r.accepting.id

/-- The access state. -/
def state (r : Row) : AccessState := .ofCode r.stateCode

/-- The row in another access state. -/
def withState (r : Row) (s : AccessState) : Row := { r with stateCode := s.code }

/-- The partner on a side. -/
def partner (r : Row) : Side → Partner
  | .offering => r.offering
  | .accepting => r.accepting

/-- The row with another partner on a side. -/
def withPartner (r : Row) (p : Partner) : Side → Row
  | .offering => { r with offering := p }
  | .accepting => { r with accepting := p }

/-- The row with other control bits of the partner on a side. -/
def withControl (r : Row) (side : Side) (control : Control) : Row :=
  r.withPartner ((r.partner side).withControl control) side

/-- The first present side whose partner satisfies `which`. -/
def sideWith (r : Row) (which : Partner → Bool) : Option Side :=
  if r.offering.Present ∧ which r.offering then some .offering
  else if r.accepting.Present ∧ which r.accepting then some .accepting
  else none

/-- The side that the processor `id` occupies; being the target of an offer does not count. -/
def sideOf (r : Row) (id : ProcessorId) : Option Side := r.sideWith (·.id = id)

/-- The side that the process `pid` occupies. -/
def sideOfPid (r : Row) (pid : UInt32) : Option Side := r.sideWith (·.pid = pid)

/-- The control bits of both sides together, from the offering side's point of view. -/
def combinedControl (r : Row) : Control :=
  r.offering.flags.control.union r.accepting.flags.control.mirror

/-- The combined control bits and the state, from the point of view of a side. -/
def view (r : Row) : Side → Control × AccessState
  | .offering => (r.combinedControl, r.state)
  | .accepting => (r.combinedControl.mirror, r.state.mirror)

end Row

/-- A registered processor, and the events that are pending for it. -/
structure Slot where
  partner : Partner
  events : Event
deriving DecidableEq, Repr

namespace Slot

/-- The slot of no processor. -/
def empty : Slot := ⟨.empty, .none⟩

/-- Whether a processor is registered in a slot. -/
def Used (s : Slot) : Prop := s.partner.Present

instance (s : Slot) : Decidable s.Used := inferInstanceAs (Decidable s.partner.Present)

/-- Whether the processor `id` is registered in a slot. -/
def Holds (s : Slot) (id : ProcessorId) : Prop := s.Used ∧ s.partner.id = id

instance (s : Slot) (id : ProcessorId) : Decidable (s.Holds id) :=
  inferInstanceAs (Decidable (_ ∧ _))

end Slot

end SharedVariables
