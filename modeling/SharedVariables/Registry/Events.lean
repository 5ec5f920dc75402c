import SharedVariables.Registry.Basic

/-!
# Pending events

An event is recorded twice: in the slot of the processor it is meant for, and as a mark on that
processor's side of the row, so that the processor can be told which variable it concerns. It is
also announced by a notification, which goes to the port of the side or, if that has none, to the
port that the processor registered. Nothing is ever sent to port 0.
-/

namespace SharedVariables

/-- A notification to `port`, or nothing if that is port 0. -/
def notify (port : UInt16) (kind : NoticeKind) (key : Key) : List Notice :=
  if port = 0 then [] else [⟨port, kind, key⟩]

namespace Row

/-- Whether an event is marked on the side of the processor `id`. -/
def hasEvent (row : Row) (id : ProcessorId) : Bool :=
  match row.sideOf id with
  | some side => (row.partner side).flags.eventPending
  | none => false

/-- The row without the mark on the side of the processor `id`. -/
def clearEvent (row : Row) (id : ProcessorId) : Row :=
  match row.sideOf id with
  | some side => row.withPartner ((row.partner side).withEvent false) side
  | none => row

/-- The row with an event marked on a side. -/
def markEvent (row : Row) (side : Side) : Row :=
  row.withPartner ((row.partner side).withEvent true) side

end Row

/-- The slot with an event added. -/
def Slot.addEvent (slot : Slot) (event : Event) : Slot :=
  { slot with events := slot.events.union event }

namespace Registry

/-- The registry with an event added to the slot of the processor `id`, if it is registered. -/
def addToSlot (r : Registry) (id : ProcessorId) (event : Event) : Registry :=
  match r.findSlot id with
  | some i => r.modifySlot i (·.addEvent event)
  | none => r

/-- Where notifications for a partner go: to its own port, or else to the port it registered. -/
def noticePort (r : Registry) (p : Partner) : UInt16 :=
  if p.port = 0 then r.udpPort p.id else p.port

/-- Records an event for one side of a row and announces it; an absent side is told nothing. -/
def fireEvent (r : Registry) (i : RowIndex) (side : Side) (event : Event) : Outcome Unit :=
  let row := r.rows.get i
  let p := row.partner side
  if p.Present then
    ⟨(), (r.modifyRow i (·.markEvent side)).addToSlot p.id event,
      notify (r.noticePort p) (.newEvent event) row.key⟩
  else r.unchanged ()

/-- Records an event for the processor `id`: on its side of the variable `key` if it has one, and
otherwise only in its slot. -/
def addEvent (r : Registry) (event : Event) (id : ProcessorId) (key : Key) : Outcome Unit :=
  match (r.findVar key).bind fun i => ((r.rows.get i).sideOf id).map (i, ·) with
  | some (i, side) => r.fireEvent i side event
  | none =>
    ⟨(), r.addToSlot id event, notify (r.udpPort id) (.newEvent event) key⟩

/-- The key of the first variable with an event marked for the processor `id`. -/
def firstMarked (r : Registry) (id : ProcessorId) : Key :=
  match first? r.rows fun row => !decide row.Free && row.hasEvent id with
  | some i => (r.rows.get i).key
  | none => .none

/-- The events that are pending for the processor `id`. -/
def pendingEvents (r : Registry) (id : ProcessorId) : Event :=
  match r.getSlot id with
  | some slot => slot.events
  | none => .none

/-- The events that are pending for the processor `id`, and the first variable they concern. -/
def getEvents (r : Registry) (id : ProcessorId) : Key × Event :=
  (r.firstMarked id, r.pendingEvents id)

/-- The registry with no event pending in the slot of the processor `id`. -/
def emptySlotEvents (r : Registry) (id : ProcessorId) : Registry :=
  match r.findSlot id with
  | some i => r.modifySlot i fun slot => { slot with events := .none }
  | none => r

/-- Forgets every event of the processor `id` and says which were pending. -/
def clearAllEvents (r : Registry) (id : ProcessorId) : Outcome Event :=
  let emptied := r.emptySlotEvents id
  let rows := emptied.rows.map fun row => if row.Free then row else row.clearEvent id
  ⟨r.pendingEvents id, { emptied with rows }, []⟩

/-- Removes the mark of the processor `id` on the variable `key`. With its last mark the pending
events are forgotten too. -/
def clearEvent (r : Registry) (key : Key) (id : ProcessorId) : Outcome Unit :=
  let cleared :=
    match r.findVar key with
    | some i => r.modifyRow i (·.clearEvent id)
    | none => r
  ⟨(), if (cleared.firstMarked id).IsNone then cleared.emptySlotEvents id else cleared, []⟩

end Registry

end SharedVariables
