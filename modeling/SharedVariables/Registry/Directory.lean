import SharedVariables.Registry.Basic

/-!
# The directory of processors

Processors register under their identity, with their process and port. Anybody may ask who is
registered, which identity is still unused, who offers what to whom, and which variable belongs to
another one as its other half.
-/

namespace SharedVariables.Registry

/-- Registers the processor `id`. A processor that is registered already keeps its events and gets
the new process and port; a new one needs a free slot. -/
def registerProcessor (r : Registry) (id : ProcessorId) (pid : UInt32) (port : UInt16) :
    Outcome Bool :=
  let p := Partner.ofProcess id pid port
  if p.Present then
    match r.findSlot id with
    | some i =>
      ⟨true, r.modifySlot i fun slot => { slot with partner.pid := pid, partner.port := port }, []⟩
    | none =>
      match first? r.slots fun slot => !decide slot.Used with
      | some i => ⟨true, r.modifySlot i fun _ => ⟨p, .none⟩, []⟩
      | none => r.unchanged false
  else r.unchanged false

/-- Removes the registration of the processor `id`, and says whether it had one. -/
def unregisterProcessor (r : Registry) (id : ProcessorId) : Outcome Bool :=
  match r.findSlot id with
  | some i => ⟨true, r.modifySlot i fun _ => .empty, []⟩
  | none => r.unchanged false

/-- Removes the registrations that satisfy `which`, and says how many there were. -/
def unregisterWhere (r : Registry) (which : Partner → Bool) : Outcome Nat :=
  let gone (slot : Slot) : Bool := decide slot.Used && which slot.partner
  ⟨r.slots.countP gone, { r with slots := r.slots.map fun s => if gone s then .empty else s }, []⟩

/-- Removes the registrations of the process `pid`, and says how many there were. -/
def unregisterPid (r : Registry) (pid : UInt32) : Outcome Nat := r.unregisterWhere (·.pid = pid)

/-- Whether the processor `id` is neither registered nor a side of a variable. -/
def isUnusedId (r : Registry) (id : ProcessorId) : Bool :=
  !r.isRegistered id && r.usedRows.all fun row => (row.sideOf id).isNone

/-- The numbers among which an unused one is sure to be: one more than there are slots and sides. -/
def userNumbers : List ProcessorNumber :=
  (List.range (slotCapacity + 2 * rowCapacity + 1)).map fun n => .ofNat (1001 + n)

/-- The lowest number for a user processor that is unused. -/
def getUnusedId (r : Registry) : ProcessorNumber :=
  (userNumbers.find? fun n => r.isUnusedId (.single n)).getD .firstUser

/-- The partner that shares the variable `key` with the processor `id`. -/
def getPeer (r : Registry) (key : Key) (id : ProcessorId) : Option Partner := do
  let row ← r.getVar key
  let side ← row.sideOf id
  let peer := row.partner side.other
  if peer.Present then some peer else none

/-- The processor that offers the variable `key`; nobody if there is no such variable. -/
def findOfferingId (r : Registry) (key : Key) : ProcessorId :=
  match r.getVar key with
  | some row => row.offering.id
  | none => .null

/-- The pending offers that are addressed to processors numbered `addressee`, in table order. -/
def offersTo (r : Registry) (addressee : ProcessorNumber) : List Row :=
  r.usedRows.filter fun row => row.coupling = .offered ∧ row.target.proc = addressee

/-- The numbers of the processors that have an offer to `addressee` pending, each once, in table
order. -/
def offeringProcessors (r : Registry) (addressee : ProcessorNumber) : List ProcessorNumber :=
  ((r.offersTo addressee).map fun row => row.offering.id.proc).foldl
    (fun procs proc => if proc ∈ procs then procs else procs ++ [proc]) []

/-- The names of the offers of `from` to `addressee` that are pending, in table order. -/
def offeredVariables (r : Registry) (addressee offering : ProcessorNumber) : List Name :=
  ((r.offersTo addressee).filter fun row => row.offering.id.proc = offering).map Row.name

/-- Whether two rows name the same two processors, in either order. -/
def samePartners (a b : Row) : Bool :=
  a.offering.id = b.offering.id && a.accepting.id = b.accepting.id ||
    a.offering.id = b.accepting.id && a.accepting.id = b.offering.id

/-- The key of the first other variable that names the same two processors as the variable `key` and
whose name is related to its name by `related`. -/
def pairingKey (r : Registry) (key : Key) (related : Name → Name → Bool) : Key :=
  match r.getVar key with
  | none => .none
  | some row =>
    let isOther (other : Row) : Bool :=
      other.key ≠ key ∧ samePartners other row ∧ related row.name other.name
    match r.usedRows.find? isOther with
    | some other => other.key
    | none => .none

end SharedVariables.Registry
