import SharedVariables.Registry.Events

/-!
# Access to a shared variable

Partners report when they set or use a variable, ask whether they may, and restrict it by control
bits. Every operation looks at the row from the point of view of the partner that asks, so that
offering and accepting partners follow the same rules. A processor that is no partner of a variable
is refused and changes nothing.
-/

namespace SharedVariables.Registry

/-- The place of the variable `key` and the side that the processor `id` has there. -/
def callerRow (r : Registry) (key : Key) (id : ProcessorId) : Option (RowIndex × Side) := do
  let i ← r.findVar key
  let side ← (r.rows.get i).sideOf id
  return (i, side)

/-- The state that a variable gets when one side sets it. -/
def stateSetBy : Side → AccessState
  | .offering => .offeringHasSet
  | .accepting => .acceptingHasSet

/-- Records that the processor `id` has used (`used`) or set the variable `key`. Using one's own
value again changes nothing. The other partner is told if the access was a restricted one. -/
def setState (r : Registry) (key : Key) (id : ProcessorId) (used : Bool) : Outcome Unit :=
  match r.callerRow key id with
  | none => r.unchanged ()
  | some (i, side) =>
    let (control, state) := (r.rows.get i).view side
    let tell (r : Registry) (byMe : Control) (event : Event) : Outcome Unit :=
      if control.contains byMe then r.fireEvent i side.other event else r.unchanged ()
    if used then
      if state = .offeringHasSet then r.unchanged ()
      else tell (r.modifyRow i (·.withState .idle)) .useByMe .useSuccess
    else tell (r.modifyRow i (·.withState (stateSetBy side))) .setByMe .setSuccess

/-- Whether the processor `id` may make the access `byMe` to the variable `key`. The other partner
is told of a refusal on the first attempt, which is number 0, and of no later one. -/
def mayAccess (r : Registry) (key : Key) (id : ProcessorId) (attempt : Int32) (byMe : Control)
    (failed : Event) : Outcome Bool :=
  match r.callerRow key id with
  | none => r.unchanged false
  | some (i, side) =>
    let (control, state) := (r.rows.get i).view side
    if ¬(control.inter state.restriction).contains byMe then r.unchanged true
    else if attempt = 0 then (r.fireEvent i side.other failed).map fun _ => false
    else r.unchanged false

/-- Whether the processor `id` may use the variable `key` now. -/
def mayUse (r : Registry) (key : Key) (id : ProcessorId) (attempt : Int32) : Outcome Bool :=
  r.mayAccess key id attempt .useByMe .useFailed

/-- Whether the processor `id` may set the variable `key` now. -/
def maySet (r : Registry) (key : Key) (id : ProcessorId) (attempt : Int32) : Outcome Bool :=
  r.mayAccess key id attempt .setByMe .setFailed

/-- The control bits of the variable `key` from the point of view of the processor `id`. -/
def getControl (r : Registry) (key : Key) (id : ProcessorId) : Control :=
  match r.callerRow key id with
  | some (i, side) => ((r.rows.get i).view side).1
  | none => .none

/-- Replaces the control bits of the processor `id` on the variable `key`, tells the other partner
of a coupled variable, and gives the bits of both together. -/
def setControl (r : Registry) (key : Key) (id : ProcessorId) (control : Control) :
    Outcome Control :=
  match r.callerRow key id with
  | none => r.unchanged .none
  | some (i, side) =>
    let changed := r.modifyRow i (·.withControl side control)
    let told :=
      if (changed.rows.get i).coupling = .coupled then
        changed.fireEvent i side.other .accessControlChanged
      else changed.unchanged ()
    told.andThen fun _ r => r.unchanged ((r.rows.get i).view side).1

end SharedVariables.Registry
