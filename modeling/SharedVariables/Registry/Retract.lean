import SharedVariables.Registry.Directory
import SharedVariables.Registry.Events

/-!
# Retracting

A partner that retracts leaves the other one with an offer that is addressed to the partner that
left, so that the two can couple again. The partner that remains becomes the offering one. When no
partner remains, the row is free. A process, or whoever finds that processes have died, retracts all
that they hold in the same way.
-/

namespace SharedVariables

/-- The row after the partner on `side` has left. -/
def Row.leave (row : Row) (side : Side) : Row :=
  let left : Row :=
    match side with
    | .offering =>
      if row.coupling = .coupled then
        { row with offering := row.accepting, accepting := .target row.offering.id }
      else { row with offering := .empty }
    | .accepting => { row with accepting := .target row.accepting.id }
  if left.coupling = .none then .empty else left.withState .notShared

namespace Registry

/-- Where one side is told of a retract: a present partner at its port, an absent target at the port
it registered. -/
def retractPort (r : Registry) (p : Partner) : UInt16 :=
  if p.Present then p.port else if p.id.IsGeneral then 0 else r.udpPort p.id

/-- Takes the partner on `side` out of the row at `i` and tells both sides; the partner that remains
is also given an event. -/
def retractSide (r : Registry) (i : RowIndex) (side : Side) : Outcome Unit :=
  let row := r.rows.get i
  let changed := r.modifyRow i (·.leave side)
  let told :=
    if (changed.rows.get i).Free then changed.unchanged ()
    else changed.fireEvent i .offering .offerRetracted
  ⟨(), told.registry,
    told.notices ++ (notify (r.retractPort row.offering) .retractOffer row.key ++
      notify (r.retractPort row.accepting) .retractOffer row.key)⟩

/-- Takes the processor `id` out of the variable `key` and gives the coupling before. A processor
that is no partner changes nothing. -/
def retract (r : Registry) (key : Key) (id : ProcessorId) : Outcome Coupling :=
  match r.findVar key with
  | none => r.unchanged .none
  | some i =>
    let before := (r.rows.get i).coupling
    match (r.rows.get i).sideOf id with
    | none => r.unchanged before
    | some side => (r.retractSide i side).map fun _ => before

/-- Retracts the partner that `leaving` finds in the row at `i`, again and again while it finds one,
at most `fuel` times; says how many times it was. -/
def retractWhile (leaving : Row → Option ProcessorId) (i : RowIndex) : Nat → Registry → Outcome Nat
  | 0, r => r.unchanged 0
  | fuel + 1, r =>
    match leaving (r.rows.get i) with
    | none => r.unchanged 0
    | some id =>
      (r.retract (r.rows.get i).key id).andThen fun _ r =>
        (retractWhile leaving i fuel r).map (· + 1)

/-- Does `step` for every place of the table in order and adds up the numbers. -/
def sumRows (step : RowIndex → Registry → Outcome Nat) (r : Registry) : Outcome Nat :=
  (List.finRange rowCapacity).foldl
    (fun sum i => sum.andThen fun n r => (step i r).map (n + ·)) (r.unchanged 0)

/-- The identity of the partner on the side of the process `pid`. -/
def leavingWithPid (pid : UInt32) (row : Row) : Option ProcessorId :=
  (row.sideOfPid pid).map fun side => (row.partner side).id

/-- Retracts every side that the process `pid` holds, and says how many there were. A row has two
sides, so two retracts empty it. -/
def retractAllOf (r : Registry) (pid : UInt32) : Outcome Nat :=
  r.sumRows fun i => retractWhile (leavingWithPid pid) i 2

/-- Retracts the processor `id` from every variable it shares, and says how many there were. -/
def retractAllBy (r : Registry) (id : ProcessorId) : Outcome Nat :=
  r.sumRows fun i => retractWhile (fun row => (row.sideOf id).map fun _ => id) i 1

end Registry

/-- What was removed on behalf of dead processes. -/
structure ReclaimReport where
  processors : Nat
  sides : Nat
deriving DecidableEq, Repr

/-- Whether nothing was removed. -/
def ReclaimReport.isEmpty (report : ReclaimReport) : Bool :=
  report.processors == 0 && report.sides == 0

namespace Registry

/-- The identity of the first partner of a row whose process is dead. -/
def leavingDead (alive : UInt32 → Bool) (row : Row) : Option ProcessorId :=
  if row.Free then none
  else (row.sideWith fun p => !alive p.pid).map fun side => (row.partner side).id

/-- Removes the registrations of dead processes and retracts all that they hold. -/
def removeStale (r : Registry) (alive : UInt32 → Bool) : Outcome ReclaimReport :=
  (r.unregisterWhere fun p => !alive p.pid).andThen fun processors r =>
    (r.sumRows fun i => retractWhile (leavingDead alive) i 2).map fun sides => ⟨processors, sides⟩

end Registry

end SharedVariables
