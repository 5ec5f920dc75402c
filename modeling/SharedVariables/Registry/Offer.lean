import SharedVariables.Registry.Events

/-!
# Offers

`matchOrMake` is how a processor shares a variable: if another processor has offered it one of that
name, the two become coupled, and otherwise the processor's own offer is put into a free row. An
offer is addressed to one processor or to everybody, and so is a request; two that are both
addressed to everybody never meet.
-/

namespace SharedVariables

/-- Why an offer cannot be made. -/
inductive OfferError where
  /-- Every row holds a variable. -/
  | tableFull
  /-- Nobody stands behind the offer. -/
  | invalidPartner (partner : Partner)
deriving DecidableEq, Repr

/-- The name of a cause. -/
def OfferError.name : OfferError → String
  | .tableFull => "TableFull"
  | .invalidPartner _ => "InvalidPartner"

/-- The text of an error. -/
def OfferError.message : OfferError → String
  | .tableFull => s!"Variable table full ({rowCapacity} rows)"
  | .invalidPartner p => s!"Invalid offering partner: {p.text}"

/-- Whether a pending offer of `offering` to `target` can be completed by a request of `requester`
to `addressee`. Nobody completes an offer of their own; a request to everybody completes what is
addressed to the requester, and a request to one processor completes what that processor offers to
the requester or to everybody. -/
def canCouple (offering target addressee requester : ProcessorId) : Bool :=
  if offering = requester then false
  else if addressee.IsGeneral then !decide target.IsGeneral && target = requester
  else offering = addressee && (decide target.IsGeneral || target = requester)

namespace Row

/-- Whether a row holds a pending offer that a request completes. -/
def isCompletedBy (row : Row) (name : Name) (addressee requester : ProcessorId) : Bool :=
  row.coupling = .offered && row.name.Matches name &&
    canCouple row.offering.id row.target addressee requester

/-- The row with `p` on its accepting side. A name with a star gives way to one without. -/
def accept (row : Row) (name : Name) (p : Partner) : Row :=
  { row with
    accepting := .ofProcess p.id p.pid p.port
    name := if row.name.hasWildcard ∧ ¬name.hasWildcard then name else row.name
    stateCode := if row.state = .notShared then AccessState.idle.code else row.stateCode }

end Row

namespace Registry

/-- The first row that a request completes. -/
def findPending (r : Registry) (name : Name) (addressee requester : ProcessorId) :
    Option RowIndex :=
  first? r.rows (·.isCompletedBy name addressee requester)

/-- Completes the first pending offer that the request of `p` fits, tells the partner that made it,
and says in which row it is. -/
def matchPendingOffer (r : Registry) (name : Name) (addressee : ProcessorId) (p : Partner) :
    Outcome (Option RowIndex) :=
  match r.findPending name addressee p.id with
  | none => r.unchanged none
  | some i =>
    let row := r.rows.get i
    let fired := (r.modifyRow i (·.accept name p)).fireEvent i .offering .offerMatched
    ⟨some i, fired.registry, fired.notices ++ notify row.offering.port .offerMatched row.key⟩

/-- The first key that no variable has, of `fuel` keys made with the counters after `seq`, and the
counter it was made with. If all are taken it is the last one tried. -/
def freshKeyFrom (r : Registry) (pid : UInt32) (proc : ProcessorNumber) :
    Nat → UInt32 → Key × UInt32
  | 0, seq => (.compose pid proc seq.toUInt16, seq)
  | fuel + 1, seq =>
    let key := Key.compose pid proc (seq + 1).toUInt16
    if key.IsNone ∨ (r.findVar key).isSome then freshKeyFrom r pid proc fuel (seq + 1)
    else (key, seq + 1)

/-- A key that no variable has, and the counter it was made with. Keys made with consecutive
counters differ, so two more of them than there are rows hold one that is neither taken nor zero. -/
def freshKey (r : Registry) (pid : UInt32) (proc : ProcessorNumber) : Key × UInt32 :=
  r.freshKeyFrom pid proc (rowCapacity + 2) r.seq

/-- Puts an offer of `p` to `addressee` into the first free row, tells `addressee` if it is
registered with a port, and says which row it is. -/
def createOffer (r : Registry) (name : Name) (addressee : ProcessorId) (p : Partner) :
    Outcome (Except OfferError RowIndex) :=
  if p.Present then
    match first? r.rows fun row => row.Free with
    | none => r.unchanged (.error .tableFull)
    | some i =>
      let (key, seq) := r.freshKey p.pid p.id.proc
      let row := Row.offer key name (.ofProcess p.id p.pid p.port) addressee
      let port := if addressee.IsGeneral then 0 else r.udpPort addressee
      let told := { row with accepting.flags.offerSent := port ≠ 0 }
      ⟨.ok i, { r.modifyRow i fun _ => told with seq }, notify port .makeOffer key⟩
  else r.unchanged (.error (.invalidPartner p))

/-- Shares a variable: completes the first pending offer that fits, or makes a new one. -/
def matchOrMake (r : Registry) (name : Name) (addressee : ProcessorId) (p : Partner) :
    Outcome (Except OfferError (Key × Coupling)) :=
  if p.Present then
    (r.matchPendingOffer name addressee p).andThen fun matched r =>
      match matched with
      | some i => r.unchanged (.ok ((r.rows.get i).key, .coupled))
      | none =>
        (r.createOffer name addressee p).andThen fun made r =>
          r.unchanged (made.map fun i => ((r.rows.get i).key, .offered))
  else r.unchanged (.error (.invalidPartner p))

end Registry

end SharedVariables
