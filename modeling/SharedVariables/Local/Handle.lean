import SharedVariables.Store

/-!
# Handles

A process on the registry's own host works on the registry directly, through a handle. A handle that
is switched off or closed has no registry and gives neutral answers. Opening a handle clears away
what dead processes have left behind; closing it gives up all that its process shares.
-/

namespace SharedVariables

/-- The access of one processor to the registry on its host. -/
structure Handle where
  me : Partner
  /-- Whether the handle has a registry. -/
  isOpen : Bool
  /-- Whether notifications can reach the handle. -/
  hasListener : Bool
deriving DecidableEq, Repr

namespace Handle

/-- The handle of a process that is kept from sharing variables. -/
def disabled (id : ProcessorId) (pid : UInt32) : Handle := ⟨.ofProcess id pid 0, false, false⟩

/-- The handle of a process that listens at `port`. -/
def attached (id : ProcessorId) (pid : UInt32) (port : UInt16) : Handle :=
  ⟨.ofProcess id pid port, true, true⟩

/-- Opens a handle of `me`: a registry that is there already is rid of dead processes, and one that
is not is made. -/
def openFor (existing : Option Registry) (alive : UInt32 → Bool) (me : Partner) : Outcome Handle :=
  let handle := attached me.id me.pid me.port
  match existing with
  | some r => (r.removeStale alive).map fun _ => handle
  | none => Registry.empty.unchanged handle

/-- What an open handle makes of the registry; a closed one leaves it alone and gives `neutral`. -/
def withRegistry {α : Type} (h : Handle) (r : Registry) (neutral : α)
    (act : Registry → Partner → Outcome α) : Outcome α :=
  if h.isOpen then act r h.me else r.unchanged neutral

/-- Makes a call. -/
def call (h : Handle) (r : Registry) (call : StoreCall) : Outcome call.Answer :=
  h.withRegistry r call.neutral fun r me => r.answer me call

/-- The partner that shares the variable `key` with the handle's processor. -/
def getPeer (h : Handle) (r : Registry) (key : Key) : Option Partner :=
  (h.withRegistry r none fun r me => r.unchanged (r.getPeer key me.id)).value

/-- The lowest number for a user processor that is unused. -/
def getUnusedId (h : Handle) (r : Registry) : ProcessorNumber :=
  (h.withRegistry r .none fun r _ => r.unchanged r.getUnusedId).value

/-- Removes the mark of the handle's processor on the variable `key`. -/
def clearEvent (h : Handle) (r : Registry) (key : Key) : Outcome Unit :=
  h.withRegistry r () fun r me => r.clearEvent key me.id

/-- The registry as it is now, if the handle is open. -/
def snapshot (h : Handle) (r : Registry) : Option Registry := if h.isOpen then some r else none

/-- Closes a handle: everything its process shares is given up, and whoever listens on its behalf is
told that no more notifications come. -/
def close (h : Handle) (r : Registry) : Outcome Handle :=
  if h.isOpen then
    let left := (r.retractAllOf h.me.pid).andThen fun _ r => r.unregisterPid h.me.pid
    ⟨{ h with isOpen := false }, left.registry, left.notices ++ [⟨h.me.port, .disconnect, .none⟩]⟩
  else r.unchanged h

end Handle

end SharedVariables
