import SharedVariables.Local.Handle

/-!
# Handles on one host

The processes of a host open handles on one segment. The first one makes the segment, which stays
when all handles are closed. Each handle that is opened listens at the next free port; a handle may
take the place of an earlier one, which is closed as soon as the new one is open.
-/

namespace SharedVariables

/-- The segment of a host, and the port at which its next handle listens. -/
structure Host where
  segment : Option Registry
  nextPort : UInt16

namespace Host

/-- The registry in the segment; an empty one if there is no segment. -/
def registry (h : Host) : Registry := h.segment.getD .empty

/-- The host after something was done to its registry, if it has one. -/
def update (h : Host) (r : Registry) : Host := { h with segment := h.segment.map fun _ => r }

/-- Closes the handle that another one takes the place of. -/
def replace (handle : Handle) (r : Registry) (earlier : Option Handle) : Outcome Handle :=
  match earlier with
  | some old => (old.close r).map fun _ => handle
  | none => r.unchanged handle

/-- Opens a handle for the processor `id` of the process `pid`, in the place of an earlier one if
there is one. -/
def openHandle (h : Host) (alive : UInt32 → Bool) (id : ProcessorId) (pid : UInt32)
    (earlier : Option Handle) : Outcome Handle × Host :=
  let opened :=
    (Handle.openFor h.segment alive (.ofProcess id pid h.nextPort)).andThen fun handle r =>
      replace handle r earlier
  (opened, ⟨some opened.registry, h.nextPort + 1⟩)

/-- Opens a handle that is switched off, in the place of an earlier one if there is one. -/
def openDisabled (h : Host) (id : ProcessorId) (pid : UInt32) (earlier : Option Handle) :
    Outcome Handle × Host :=
  let opened := replace (.disabled id pid) h.registry earlier
  (opened, h.update opened.registry)

end Host

end SharedVariables
