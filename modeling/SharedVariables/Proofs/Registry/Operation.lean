import SharedVariables.Proofs.Registry.Retracting

/-!
# Runs of operations

`Operation` lists what can be done to a registry, `Registry.perform` does it, and `Registry.run`
does one operation after the other. `perform_evolves` says for which processors an operation takes
the steps of `RowStep` and `SlotStep`, so that a statement about runs needs an induction over
operations once (`run_induction`) and then a case for each step.
-/

namespace SharedVariables

open Relation

/-- Something that is done to a registry. -/
inductive Operation where
  | matchOrMake (name : Name) (addressee : ProcessorId) (p : Partner)
  | createOffer (name : Name) (addressee : ProcessorId) (p : Partner)
  /-- Only a partner that is present is ever matched with an offer. -/
  | matchPendingOffer (name : Name) (addressee : ProcessorId) (p : Partner) (present : p.Present)
  | retract (key : Key) (id : ProcessorId)
  | retractAllOf (pid : UInt32)
  | retractAllBy (id : ProcessorId)
  | setState (key : Key) (id : ProcessorId) (used : Bool)
  | setControl (key : Key) (id : ProcessorId) (control : Control)
  | mayUse (key : Key) (id : ProcessorId) (attempt : Int32)
  | maySet (key : Key) (id : ProcessorId) (attempt : Int32)
  | addEvent (event : Event) (id : ProcessorId) (key : Key)
  | clearEvent (key : Key) (id : ProcessorId)
  | clearAllEvents (id : ProcessorId)
  | registerProcessor (id : ProcessorId) (pid : UInt32) (port : UInt16)
  | unregisterProcessor (id : ProcessorId)
  | unregisterPid (pid : UInt32)
  | removeStale (alive : UInt32 → Bool)

namespace Operation

/-- The processors whose shares an operation makes, takes up, uses, restricts or retracts. -/
def Shares (op : Operation) (r : Registry) : ProcessorId → Prop :=
  match op with
  | matchOrMake _ _ p | createOffer _ _ p | matchPendingOffer _ _ p _ => (· = p.id)
  | retract _ id | retractAllBy id | setState _ id _ | setControl _ id _ => (· = id)
  | retractAllOf pid => r.HoldsSide (· = pid)
  | removeStale alive => r.HoldsSide (!alive ·)
  | mayUse .. | maySet .. | addEvent .. | clearEvent .. | clearAllEvents .. => fun _ => False
  | registerProcessor .. | unregisterProcessor .. | unregisterPid .. => fun _ => False

/-- The processors whose registration an operation makes, refreshes or removes. -/
def Enrolls (op : Operation) (r : Registry) : ProcessorId → Prop :=
  match op with
  | registerProcessor id _ _ | unregisterProcessor id => (· = id)
  | unregisterPid pid => r.HoldsSlot (· = pid)
  | removeStale alive => r.HoldsSlot (!alive ·)
  | _ => fun _ => False

end Operation

namespace Registry

/-- The registry after an operation and the notifications that the operation sends. -/
def perform (r : Registry) : Operation → Outcome Unit
  | .matchOrMake name addressee p => (r.matchOrMake name addressee p).map fun _ => ()
  | .createOffer name addressee p => (r.createOffer name addressee p).map fun _ => ()
  | .matchPendingOffer name addressee p _ => (r.matchPendingOffer name addressee p).map fun _ => ()
  | .retract key id => (r.retract key id).map fun _ => ()
  | .retractAllOf pid => (r.retractAllOf pid).map fun _ => ()
  | .retractAllBy id => (r.retractAllBy id).map fun _ => ()
  | .setState key id used => r.setState key id used
  | .setControl key id control => (r.setControl key id control).map fun _ => ()
  | .mayUse key id attempt => (r.mayUse key id attempt).map fun _ => ()
  | .maySet key id attempt => (r.maySet key id attempt).map fun _ => ()
  | .addEvent event id key => r.addEvent event id key
  | .clearEvent key id => r.clearEvent key id
  | .clearAllEvents id => (r.clearAllEvents id).map fun _ => ()
  | .registerProcessor id pid port => (r.registerProcessor id pid port).map fun _ => ()
  | .unregisterProcessor id => (r.unregisterProcessor id).map fun _ => ()
  | .unregisterPid pid => (r.unregisterPid pid).map fun _ => ()
  | .removeStale alive => (r.removeStale alive).map fun _ => ()

/-- The registry after a list of operations, done first to last. -/
def run (r : Registry) (ops : List Operation) : Registry :=
  ops.foldl (fun r op => (r.perform op).registry) r

/-- Whether a registry comes about by operations on the empty one. -/
def Reachable (r : Registry) : Prop := ∃ ops, empty.run ops = r

theorem run_append (r : Registry) (ops ops' : List Operation) :
    r.run (ops ++ ops') = (r.run ops).run ops' := List.foldl_append

theorem run_snoc (r : Registry) (before : List Operation) (op : Operation) :
    r.run (before ++ [op]) = ((r.run before).perform op).registry := run_append ..

/-- A run can be cut behind any of its operations. -/
theorem run_cut (r : Registry) (before : List Operation) (op : Operation) (after : List Operation) :
    r.run (before ++ op :: after) = (r.run (before ++ [op])).run after := by
  rw [← run_append, List.append_assoc, List.singleton_append]

/-- What every operation keeps, every run keeps. -/
theorem run_induction {P : Registry → Prop} (h : ∀ r op, P r → P (r.perform op).registry)
    {r : Registry} (hr : P r) (ops : List Operation) : P (r.run ops) := by
  induction ops generalizing r with
  | nil => exact hr
  | cons op ops ih => exact ih (h r op hr)

theorem Reachable.run {r : Registry} (h : r.Reachable) (ops : List Operation) :
    (r.run ops).Reachable := by
  obtain ⟨before, rfl⟩ := h
  exact ⟨before ++ ops, run_append ..⟩

/-- An operation takes steps for the processors it is done for, and for no other. -/
theorem perform_evolves (r : Registry) (op : Operation) :
    r.Evolves (op.Shares r) (op.Enrolls r) (r.perform op).registry := by
  cases op with
  | matchOrMake name addressee p => exact matchOrMake_evolves r name addressee p
  | createOffer name addressee p => exact createOffer_evolves r name addressee p
  | matchPendingOffer name addressee p present =>
    exact matchPendingOffer_evolves r name addressee present
  | retract key id => exact retract_evolves r key id
  | retractAllOf pid =>
    simp only [perform, Outcome.map]
    exact retractAllOf_evolves r pid
  | retractAllBy id =>
    simp only [perform, Outcome.map]
    exact retractAllBy_evolves r id
  | setState key id used => exact setState_evolves r key id used
  | setControl key id control => exact setControl_evolves r key id control
  | mayUse key id attempt => exact mayAccess_evolves r key id attempt _ _
  | maySet key id attempt => exact mayAccess_evolves r key id attempt _ _
  | addEvent event id key => exact addEvent_evolves r event id key
  | clearEvent key id => exact clearEvent_evolves r key id
  | clearAllEvents id => exact clearAllEvents_evolves r id
  | registerProcessor id pid port => exact registerProcessor_evolves r id pid port
  | unregisterProcessor id => exact unregisterProcessor_evolves r id
  | unregisterPid pid =>
    simp only [perform, Outcome.map]
    exact unregisterWhere_evolves r (· = pid)
  | removeStale alive =>
    simp only [perform, Outcome.map]
    exact removeStale_evolves r alive

end Registry

end SharedVariables
