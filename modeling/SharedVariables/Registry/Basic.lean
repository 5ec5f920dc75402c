import SharedVariables.Row
import SharedVariables.Notice

/-!
# The registry

The registry is a table of 64 rows for shared variables, a table of 16 slots for registered
processors, and a counter from which keys are made. Operations look for the first row or slot with a
property (`first?`), change what they found, and say which notifications are to be sent.
-/

namespace SharedVariables

/-- The number of rows. -/
abbrev rowCapacity : Nat := 64

/-- The number of processor slots. -/
abbrev slotCapacity : Nat := 16

/-- The place of a row. -/
abbrev RowIndex := Fin rowCapacity

/-- The place of a slot. -/
abbrev SlotIndex := Fin slotCapacity

/-- The table of shared variables and registered processors. -/
structure Registry where
  /-- How many keys have been tried, modulo 2 ^ 32. -/
  seq : UInt32
  rows : Vector Row rowCapacity
  slots : Vector Slot slotCapacity
deriving DecidableEq

/-- The place of the first entry of a table that satisfies `p`. -/
def first? {α : Type} {n : Nat} (table : Vector α n) (p : α → Bool) : Option (Fin n) :=
  table.findFinIdx? p

/-- A table with another entry at one place. -/
def put {α : Type} {n : Nat} (table : Vector α n) (i : Fin n) (entry : α) : Vector α n :=
  table.set i entry i.isLt

/-- The result of an operation: a value, the registry afterwards, and the notifications to be sent,
first to last. -/
structure Outcome (α : Type) where
  value : α
  registry : Registry
  notices : List Notice

namespace Outcome

variable {α β : Type}

/-- Continues with the registry of an outcome; its notifications come first. -/
def andThen (o : Outcome α) (f : α → Registry → Outcome β) : Outcome β :=
  let next := f o.value o.registry
  ⟨next.value, next.registry, o.notices ++ next.notices⟩

/-- The outcome with its value changed. -/
def map (f : α → β) (o : Outcome α) : Outcome β := ⟨f o.value, o.registry, o.notices⟩

end Outcome

namespace Registry

/-- The registry without variables and processors. -/
def empty : Registry := ⟨0, .replicate _ .empty, .replicate _ .empty⟩

/-- The outcome of an operation that changes and sends nothing. -/
def unchanged {α : Type} (r : Registry) (value : α) : Outcome α := ⟨value, r, []⟩

/-- The registry with the row at `i` replaced by `f` of it. -/
def modifyRow (r : Registry) (i : RowIndex) (f : Row → Row) : Registry :=
  { r with rows := put r.rows i (f (r.rows.get i)) }

/-- The registry with the slot at `i` replaced by `f` of it. -/
def modifySlot (r : Registry) (i : SlotIndex) (f : Slot → Slot) : Registry :=
  { r with slots := put r.slots i (f (r.slots.get i)) }

/-- The rows that hold a variable, in table order. -/
def usedRows (r : Registry) : List Row := r.rows.toList.filter fun row => !decide row.Free

/-- The slots that hold a processor, in table order. -/
def usedSlots (r : Registry) : List Slot := r.slots.toList.filter fun slot => slot.Used

/-- The place of the variable `key`. -/
def findVar (r : Registry) (key : Key) : Option RowIndex :=
  if key.IsNone then none else first? r.rows fun row => row.key = key

/-- The row of the variable `key`. -/
def getVar (r : Registry) (key : Key) : Option Row := (r.findVar key).map fun i => r.rows.get i

/-- How far the variable `key` is shared. -/
def coupling (r : Registry) (key : Key) : Coupling :=
  match r.getVar key with
  | some row => row.coupling
  | none => .none

/-- The access state of the variable `key`. -/
def getState (r : Registry) (key : Key) : AccessState :=
  match r.getVar key with
  | some row => row.state
  | none => .notShared

/-- The place of the processor `id`. -/
def findSlot (r : Registry) (id : ProcessorId) : Option SlotIndex :=
  first? r.slots fun slot => slot.Holds id

/-- The slot of the processor `id`. -/
def getSlot (r : Registry) (id : ProcessorId) : Option Slot :=
  (r.findSlot id).map fun i => r.slots.get i

/-- Whether the processor `id` is registered. -/
def isRegistered (r : Registry) (id : ProcessorId) : Bool := (r.findSlot id).isSome

/-- The port that the processor `id` registered, 0 if none. -/
def udpPort (r : Registry) (id : ProcessorId) : UInt16 :=
  match r.getSlot id with
  | some slot => slot.partner.port
  | none => 0

end Registry

/-! ## The first entry with a property -/

/-- `first?` finds the entry that satisfies `p` and has none before it that does. -/
theorem first?_eq_some_iff {α : Type} {n : Nat} {table : Vector α n} {p : α → Bool} {i : Fin n} :
    first? table p = some i ↔
      p (table.get i) = true ∧ ∀ j : Fin n, j < i → p (table.get j) = false := by
  obtain ⟨xs, rfl⟩ := table
  simp [first?, Vector.findFinIdx?, Vector.get, Array.findFinIdx?_eq_some_iff]

/-- `first?` finds nothing exactly if no entry satisfies `p`. -/
theorem first?_eq_none_iff {α : Type} {n : Nat} {table : Vector α n} {p : α → Bool} :
    first? table p = none ↔ ∀ i : Fin n, p (table.get i) = false := by
  obtain ⟨xs, rfl⟩ := table
  simp [first?, Vector.findFinIdx?, Vector.get, Array.findFinIdx?_eq_none_iff,
    Array.forall_mem_iff_forall_getElem, Fin.forall_iff]

end SharedVariables
