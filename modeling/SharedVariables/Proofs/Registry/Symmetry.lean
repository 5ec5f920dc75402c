import SharedVariables.Proofs.Registry.OwnControl

/-!
# The roles of two partners

Once two partners share a variable, it makes no difference which of them has made the offer. If they
change their sides in a row, each taking its flags along, and the access state is seen from the opposite
point of view (`Row.exchange`), then each of them stays where it is as far as it can tell: its partner and
its view of the variable are the same (`partner_turn`, `view_turn`), and so is what it is told. Every access
does the same before and after such an exchange (`access_exchange`, by a lemma for each operation), so a
whole run of accesses does (`ExchangedAt.accessAll`, by induction on the run). When one of the partners
leaves in the end, the exchange is forgotten (`retract_exchange`).
-/

namespace SharedVariables

/-- The code of a state with the roles of the partners exchanged. Codes that stand for no state of two
partners stay as they are. -/
def AccessState.mirrorCode (code : UInt8) : UInt8 :=
  if code = offeringHasSet.code then acceptingHasSet.code
  else if code = acceptingHasSet.code then offeringHasSet.code
  else code

theorem AccessState.mirrorCode_code (s : AccessState) : mirrorCode s.code = s.mirror.code := by
  cases s <;> decide

theorem AccessState.ofCode_mirrorCode (code : UInt8) : ofCode (mirrorCode code) = (ofCode code).mirror := by
  simp only [mirrorCode]
  split
  · rename_i h
    rw [h]
    decide
  split
  · rename_i h
    rw [h]
    decide
  · rename_i offering accepting
    change ¬code = 0x0A at offering
    change ¬code = 0x05 at accepting
    simp only [ofCode, offering, accepting, ↓reduceIte]
    split <;> rfl

/-- The row with its partners on opposite sides. -/
def Row.exchange (row : Row) : Row :=
  { row with
    offering := row.accepting
    accepting := row.offering
    stateCode := AccessState.mirrorCode row.stateCode }

/-- Two different processors are partners in a row. -/
structure Row.IsPair (row : Row) : Prop where
  coupled : row.coupling = .coupled
  differ : row.offering.id ≠ row.accepting.id

theorem Row.IsPair.of_bare {row row' : Row} (h : row.IsPair) (bare : row'.bare = row.bare) :
    row'.IsPair := by
  refine ⟨(coupling_of_bare bare).trans h.coupled, ?_⟩
  have offering := id_of_bare bare .offering
  have accepting := id_of_bare bare .accepting
  simp only [partner] at offering accepting
  rw [offering, accepting]
  exact h.differ

theorem Row.IsPair.exchange {row : Row} (h : row.IsPair) : row.exchange.IsPair :=
  ⟨coupling_eq_coupled_iff.2 (coupling_eq_coupled_iff.1 h.coupled).symm, h.differ.symm⟩

theorem Row.IsPair.sideOf {row : Row} (h : row.IsPair) (side : Side) :
    row.sideOf (row.partner side).id = some side := by
  obtain ⟨offering, accepting⟩ := coupling_eq_coupled_iff.1 h.coupled
  cases side with
  | offering => simp only [Row.sideOf, sideWith, partner, offering, decide_true, and_self, ↓reduceIte]
  | accepting =>
    simp only [Row.sideOf, sideWith, partner, offering, accepting, h.differ, decide_false, decide_true,
      Bool.false_eq_true, and_false, and_self, ↓reduceIte]

/-! ## Rows that are turned -/

/-- The opposite side, if `turned`. -/
def Side.turn (turned : Bool) (side : Side) : Side := if turned then side.other else side

/-- The opposite state, if `turned`. -/
def AccessState.turn (turned : Bool) (state : AccessState) : AccessState :=
  if turned then state.mirror else state

namespace Row

/-- The row with its partners on opposite sides, if `turned`. -/
def turn (turned : Bool) (row : Row) : Row := if turned then row.exchange else row

variable (row : Row) (turned : Bool) (side : Side)

theorem partner_turn : (row.turn turned).partner (side.turn turned) = row.partner side := by
  cases turned <;> cases side <;> rfl

theorem other_turn : (side.turn turned).other = side.other.turn turned := by
  cases turned <;> cases side <;> rfl

theorem withPartner_turn (p : Partner) :
    (row.turn turned).withPartner p (side.turn turned) = (row.withPartner p side).turn turned := by
  cases turned <;> cases side <;> rfl

theorem markEvent_turn :
    (row.turn turned).markEvent (side.turn turned) = (row.markEvent side).turn turned := by
  rw [markEvent, partner_turn, withPartner_turn, markEvent]

theorem withControl_turn (control : Control) :
    (row.turn turned).withControl (side.turn turned) control =
      (row.withControl side control).turn turned := by
  rw [withControl, partner_turn, withPartner_turn, withControl]

theorem withState_turn (state : AccessState) :
    (row.turn turned).withState (state.turn turned) = (row.withState state).turn turned := by
  cases turned with
  | false => rfl
  | true =>
    have code := (AccessState.mirrorCode_code state).symm
    exact congrArg (fun code => { row.exchange with stateCode := code }) code

theorem view_turn : (row.turn turned).view (side.turn turned) = row.view side := by
  refine Prod.ext ?_ ?_
  · rw [view_control, other_turn, partner_turn, partner_turn, view_control]
  · cases turned with
    | false => rfl
    | true =>
      have state : row.exchange.state = row.state.mirror := AccessState.ofCode_mirrorCode _
      cases side with
      | offering => exact (congrArg AccessState.mirror state).trans (AccessState.mirror_mirror _)
      | accepting => exact state

/-- Whether both sides are present does not depend on which is which. -/
theorem coupled_turn : (row.turn turned).coupling = .coupled ↔ row.coupling = .coupled := by
  cases turned with
  | false => rfl
  | true => simp only [coupling_eq_coupled_iff]; exact and_comm

variable {row turned} {id : ProcessorId}

/-- Two partners with different identities are told apart on either side. -/
theorem sideOf_turn (pair : turned = true → row.IsPair) :
    (row.turn turned).sideOf id = (row.sideOf id).map (·.turn turned) := by
  cases turned with
  | false => exact Option.map_id'.symm
  | true =>
    have apart := (pair rfl).differ
    have turned : row.turn true = row.exchange := rfl
    simp only [turned, sideOf, sideWith, exchange, decide_eq_true_eq]
    by_cases ho : row.offering.Present ∧ row.offering.id = id
    · have ha : ¬(row.accepting.Present ∧ row.accepting.id = id) := fun h => apart (ho.2.trans h.2.symm)
      rw [if_neg ha, if_pos ho, if_pos ho]
      rfl
    · rw [if_neg ho, if_neg ho]
      split <;> rfl

theorem clearEvent_turn (pair : turned = true → row.IsPair) :
    (row.turn turned).clearEvent id = (row.clearEvent id).turn turned := by
  simp only [clearEvent, sideOf_turn pair]
  cases row.sideOf id with
  | none => rfl
  | some side => simp only [Option.map_some, partner_turn, withPartner_turn]

theorem hasEvent_turn (pair : turned = true → row.IsPair) :
    (row.turn turned).hasEvent id = row.hasEvent id := by
  simp only [hasEvent, sideOf_turn pair]
  cases row.sideOf id with
  | none => rfl
  | some side => simp only [Option.map_some, partner_turn]

theorem key_turn : (row.turn turned).key = row.key := by cases turned <;> rfl

theorem free_turn : (row.turn turned).Free ↔ row.Free := by rw [Free, key_turn, Free]

/-- Who remains when a partner leaves does not depend on the sides. -/
theorem leave_exchange (coupled : row.coupling = .coupled) (side : Side) :
    row.exchange.leave side.other = row.leave side := by
  have coupled' : row.exchange.coupling = .coupled := (coupled_turn row true).2 coupled
  rw [leave_of_coupled coupled', leave_of_coupled coupled]
  cases side <;> rfl

end Row

theorem Registry.stateSetBy_turn (turned : Bool) (side : Side) :
    Registry.stateSetBy (side.turn turned) = (Registry.stateSetBy side).turn turned := by
  cases turned <;> cases side <;> rfl

theorem AccessState.idle_turn (turned : Bool) : idle.turn turned = idle := by cases turned <;> rfl

/-! ## Turning a row of a registry -/

/-- The registry with the partners in the row at `i` on opposite sides. -/
def Registry.exchange (r : Registry) (i : RowIndex) : Registry := r.modifyRow i Row.exchange

/-- The outcome with the partners in the row at `i` on opposite sides. -/
def Outcome.exchange {α : Type} (o : Outcome α) (i : RowIndex) : Outcome α :=
  { o with registry := o.registry.exchange i }

namespace Registry

variable {r : Registry} {i : RowIndex}

theorem exchange_row (r : Registry) (i j : RowIndex) :
    (r.exchange i).rows.get j = (r.rows.get j).turn (i = j) := by
  rw [exchange, modifyRow, get_put]
  by_cases h : i = j
  · subst h
    rw [if_pos rfl, decide_eq_true rfl]
    rfl
  · rw [if_neg h, decide_eq_false h]
    rfl

theorem findVar_exchange (r : Registry) (i : RowIndex) (key : Key) :
    (r.exchange i).findVar key = r.findVar key :=
  findVar_congr fun j => by rw [exchange_row, Row.key_turn]

/-- A change to a row, and the same change to the turned row. -/
theorem modifyRow_exchange {j : RowIndex} {f f' : Row → Row}
    (h : f' ((r.rows.get j).turn (i = j)) = (f (r.rows.get j)).turn (i = j)) :
    (r.exchange i).modifyRow j f' = (r.modifyRow j f).exchange i := by
  refine eq_of_tables rfl (ext_get fun k => ?_) rfl
  rw [exchange_row]
  simp only [modifyRow, exchange_row, get_put, h]
  split
  · rename_i hjk
    rw [hjk]
  · rfl

theorem addToSlot_exchange (id : ProcessorId) (event : Event) :
    (r.exchange i).addToSlot id event = (r.addToSlot id event).exchange i := by
  have same : (r.exchange i).findSlot id = r.findSlot id := rfl
  simp only [addToSlot, same]
  split <;> rfl

theorem emptySlotEvents_exchange (id : ProcessorId) :
    (r.exchange i).emptySlotEvents id = (r.emptySlotEvents id).exchange i := by
  have same : (r.exchange i).findSlot id = r.findSlot id := rfl
  simp only [emptySlotEvents, same]
  split <;> rfl

/-- Whoever is told is told the same on the other side. -/
theorem fireEvent_exchange (j : RowIndex) (side : Side) (event : Event) :
    (r.exchange i).fireEvent j (side.turn (i = j)) event = (r.fireEvent j side event).exchange i := by
  simp only [fireEvent, exchange_row, Row.partner_turn, Row.key_turn]
  split
  · rw [modifyRow_exchange (f := (·.markEvent side)) (Row.markEvent_turn ..), addToSlot_exchange]
    rfl
  · rfl

section Access

variable (pair : (r.rows.get i).IsPair)
include pair

theorem pair_turned (j : RowIndex) (turned : decide (i = j) = true) : (r.rows.get j).IsPair := by
  rwa [← of_decide_eq_true turned]

theorem callerRow_exchange (key : Key) (id : ProcessorId) :
    (r.exchange i).callerRow key id =
      (r.callerRow key id).map fun (j, side) => (j, side.turn (i = j)) := by
  simp only [callerRow, findVar_exchange]
  cases r.findVar key with
  | none => rfl
  | some j =>
    simp only [Option.bind_eq_bind, Option.bind_some, exchange_row, Row.sideOf_turn (pair_turned pair j)]
    cases (r.rows.get j).sideOf id <;> rfl

theorem setState_exchange (key : Key) (id : ProcessorId) (used : Bool) :
    (r.exchange i).setState key id used = (r.setState key id used).exchange i := by
  simp only [setState, callerRow_exchange pair]
  cases r.callerRow key id with
  | none => rfl
  | some place =>
    obtain ⟨j, side⟩ := place
    have accessed (state : AccessState) :
        (r.exchange i).modifyRow j (·.withState (state.turn (i = j))) =
          (r.modifyRow j (·.withState state)).exchange i :=
      modifyRow_exchange (Row.withState_turn ..)
    have used := accessed .idle
    rw [AccessState.idle_turn] at used
    simp only [Option.map_some, exchange_row, Row.view_turn, Row.other_turn, stateSetBy_turn, accessed,
      used, fireEvent_exchange]
    split
    · split
      · rfl
      · split <;> rfl
    · split <;> rfl

theorem mayAccess_exchange (key : Key) (id : ProcessorId) (attempt : Int32) (byMe : Control)
    (failed : Event) :
    (r.exchange i).mayAccess key id attempt byMe failed =
      (r.mayAccess key id attempt byMe failed).exchange i := by
  simp only [mayAccess, callerRow_exchange pair]
  cases r.callerRow key id with
  | none => rfl
  | some place =>
    obtain ⟨j, side⟩ := place
    simp only [Option.map_some, exchange_row, Row.view_turn, Row.other_turn, fireEvent_exchange]
    split
    · rfl
    split <;> rfl

theorem getControl_exchange (key : Key) (id : ProcessorId) :
    (r.exchange i).getControl key id = r.getControl key id := by
  simp only [getControl, callerRow_exchange pair]
  cases r.callerRow key id with
  | none => rfl
  | some place => simp only [Option.map_some, exchange_row, Row.view_turn]

theorem setControl_exchange (key : Key) (id : ProcessorId) (control : Control) :
    (r.exchange i).setControl key id control = (r.setControl key id control).exchange i := by
  simp only [setControl, callerRow_exchange pair]
  cases r.callerRow key id with
  | none => rfl
  | some place =>
    obtain ⟨j, side⟩ := place
    have restricted : (r.exchange i).modifyRow j (·.withControl (side.turn (i = j)) control) =
        (r.modifyRow j (·.withControl side control)).exchange i :=
      modifyRow_exchange (Row.withControl_turn ..)
    simp only [Option.map_some, restricted, exchange_row, Row.coupled_turn, Row.other_turn,
      fireEvent_exchange]
    split
    · simp only [Outcome.andThen, Outcome.exchange, unchanged, exchange_row, Row.view_turn]
    · simp only [Outcome.andThen, Outcome.exchange, unchanged, exchange_row, Row.view_turn]

theorem addEvent_exchange (event : Event) (id : ProcessorId) (key : Key) :
    (r.exchange i).addEvent event id key = (r.addEvent event id key).exchange i := by
  have turned := callerRow_exchange pair key id
  cases hc : r.callerRow key id with
  | none =>
    rw [hc] at turned
    rw [addEvent_of_stranger turned, addEvent_of_stranger hc, addToSlot_exchange]
    rfl
  | some place =>
    rw [hc] at turned
    rw [addEvent_of_callerRow turned, addEvent_of_callerRow hc, fireEvent_exchange]

theorem firstMarked_exchange (id : ProcessorId) :
    (r.exchange i).firstMarked id = r.firstMarked id := by
  have marked : first? (r.exchange i).rows (fun row => !decide row.Free && row.hasEvent id) =
      first? r.rows fun row => !decide row.Free && row.hasEvent id :=
    first?_congr fun j => by
      rw [exchange_row, Row.hasEvent_turn (pair_turned pair j), decide_eq_decide.2 Row.free_turn]
  simp only [firstMarked, marked, exchange_row, Row.key_turn]

theorem getEvents_exchange (id : ProcessorId) : (r.exchange i).getEvents id = r.getEvents id :=
  Prod.ext (firstMarked_exchange pair id) rfl

theorem clearAllEvents_exchange (id : ProcessorId) :
    (r.exchange i).clearAllEvents id = (r.clearAllEvents id).exchange i := by
  have rows : ((r.exchange i).emptySlotEvents id).rows = (r.exchange i).rows := emptySlotEvents_rows id
  have rows' : (r.emptySlotEvents id).rows = r.rows := emptySlotEvents_rows id
  have registry : ((r.exchange i).clearAllEvents id).registry =
      (r.clearAllEvents id).registry.exchange i := by
    refine eq_of_tables ?_ (ext_get fun j => ?_) ?_
    · simp only [clearAllEvents, emptySlotEvents_exchange]
      rfl
    · rw [exchange_row]
      simp only [clearAllEvents, rows, rows', get_map, exchange_row, Row.free_turn,
        Row.clearEvent_turn (pair_turned pair j)]
      split <;> rfl
    · simp only [clearAllEvents, emptySlotEvents_exchange]
      rfl
  exact congrArg (fun registry => (⟨r.pendingEvents id, registry, []⟩ : Outcome Event)) registry

theorem clearEvent_exchange (key : Key) (id : ProcessorId) :
    (r.exchange i).clearEvent key id = (r.clearEvent key id).exchange i := by
  have emptied {s : Registry} (pair : (s.rows.get i).IsPair) :
      (if ((s.exchange i).firstMarked id).IsNone then (s.exchange i).emptySlotEvents id
        else s.exchange i) =
      (if (s.firstMarked id).IsNone then s.emptySlotEvents id else s).exchange i := by
    simp only [firstMarked_exchange pair, emptySlotEvents_exchange]
    split <;> rfl
  simp only [clearEvent, findVar_exchange]
  cases r.findVar key with
  | none => exact congrArg (fun registry => (⟨(), registry, []⟩ : Outcome Unit)) (emptied pair)
  | some j =>
    have unmarked : (r.exchange i).modifyRow j (·.clearEvent id) =
        (r.modifyRow j (·.clearEvent id)).exchange i :=
      modifyRow_exchange (Row.clearEvent_turn (pair_turned pair j))
    have pair' : ((r.modifyRow j (·.clearEvent id)).rows.get i).IsPair := by
      have e : Evolves (fun _ => False) (fun _ => False) r (r.modifyRow j (·.clearEvent id)) :=
        .modifyRow (.unmark j id)
      exact pair.of_bare (e.flags i).1
    simp only [unmarked]
    exact congrArg (fun registry => (⟨(), registry, []⟩ : Outcome Unit)) (emptied pair')

end Access

/-- Whoever of two partners leaves, the other one remains as the offering partner. Both sides are told, the
offering one first. -/
theorem retract_exchange (pair : (r.rows.get i).IsPair) {key : Key} (found : r.findVar key = some i)
    {side : Side} {id : ProcessorId} (partner : ((r.rows.get i).partner side).id = id) :
    ((r.exchange i).retract key id).registry = (r.retract key id).registry ∧
      ((r.exchange i).retract key id).value = (r.retract key id).value ∧
      ((r.exchange i).retract key id).notices.Perm (r.retract key id).notices := by
  have place : (r.exchange i).findVar key = some i := (findVar_exchange r i key).trans found
  have turned : (r.exchange i).rows.get i = (r.rows.get i).exchange := modifyRow_self ..
  have own : (r.rows.get i).sideOf id = some side := partner ▸ pair.sideOf side
  have own' : (r.rows.get i).exchange.sideOf id = some side.other := by
    have opposite : (r.rows.get i).exchange.partner side.other = (r.rows.get i).partner side := by
      cases side <;> rfl
    rw [← partner, ← opposite]
    exact pair.exchange.sideOf side.other
  have coupled : (r.rows.get i).exchange.coupling = .coupled := pair.exchange.coupled
  have left : (r.exchange i).modifyRow i (·.leave side.other) = r.modifyRow i (·.leave side) := by
    simp only [exchange, modifyRow, put_put]
    rw [get_put, if_pos rfl, Row.leave_exchange pair.coupled]
  simp only [retract, place, found, own, turned, own', coupled, pair.coupled, retractSide, left]
  exact ⟨rfl, rfl, List.perm_append_comm.append_left _⟩

end Registry

/-! ## Runs of accesses -/

/-- What can be done with the variables in a registry short of offering, taking up and retracting them. -/
inductive Access where
  | setState (key : Key) (id : ProcessorId) (used : Bool)
  | setControl (key : Key) (id : ProcessorId) (control : Control)
  | getControl (key : Key) (id : ProcessorId)
  | mayUse (key : Key) (id : ProcessorId) (attempt : Int32)
  | maySet (key : Key) (id : ProcessorId) (attempt : Int32)
  | addEvent (event : Event) (id : ProcessorId) (key : Key)
  | getEvents (id : ProcessorId)
  | clearEvent (key : Key) (id : ProcessorId)
  | clearAllEvents (id : ProcessorId)

/-- What the answer to an access is. -/
abbrev Access.Answer : Access → Type
  | setState .. | addEvent .. | clearEvent .. => Unit
  | setControl .. | getControl .. => Control
  | mayUse .. | maySet .. => Bool
  | getEvents _ => Key × Event
  | clearAllEvents _ => Event

namespace Registry

/-- What an access does. -/
def access (r : Registry) : (a : Access) → Outcome a.Answer
  | .setState key id used => r.setState key id used
  | .setControl key id control => r.setControl key id control
  | .getControl key id => r.unchanged (r.getControl key id)
  | .mayUse key id attempt => r.mayUse key id attempt
  | .maySet key id attempt => r.maySet key id attempt
  | .addEvent event id key => r.addEvent event id key
  | .getEvents id => r.unchanged (r.getEvents id)
  | .clearEvent key id => r.clearEvent key id
  | .clearAllEvents id => r.clearAllEvents id

/-- The answer to every access in a run and the notifications that it sends, and the registry in the
end. -/
def accessAll (r : Registry) : List Access → List (Σ a : Access, a.Answer × List Notice) × Registry
  | [] => ([], r)
  | a :: rest =>
    let o := r.access a
    let later := o.registry.accessAll rest
    (⟨a, o.value, o.notices⟩ :: later.1, later.2)

/-- One registry is another one with the two partners in the row at `i` on opposite sides. -/
structure ExchangedAt (r : Registry) (i : RowIndex) (r' : Registry) : Prop where
  pair : (r.rows.get i).IsPair
  exchanged : r' = r.exchange i

variable {r r' : Registry} {i : RowIndex}

/-- An access leaves everybody where they are. -/
theorem access_bare (r : Registry) (a : Access) (j : RowIndex) :
    ((r.access a).registry.rows.get j).bare = (r.rows.get j).bare := by
  have silent {s : Registry} (e : r.Evolves (fun _ => False) (fun _ => False) s) :
      (s.rows.get j).bare = (r.rows.get j).bare := (e.flags j).1
  cases a with
  | setState key id used => exact (setState_kept key id used j).bare
  | setControl key id control => exact (setControl_kept key id control j).bare
  | getControl key id => rfl
  | mayUse key id attempt => exact silent (mayAccess_evolves r key id attempt _ _)
  | maySet key id attempt => exact silent (mayAccess_evolves r key id attempt _ _)
  | addEvent event id key => exact silent (addEvent_evolves r event id key)
  | getEvents id => rfl
  | clearEvent key id => exact silent (clearEvent_evolves r key id)
  | clearAllEvents id => exact silent (clearAllEvents_evolves r id)

/-- An access does the same whatever the roles of two partners are. -/
theorem access_exchange (pair : (r.rows.get i).IsPair) (a : Access) :
    (r.exchange i).access a = (r.access a).exchange i := by
  cases a with
  | setState key id used => exact setState_exchange pair key id used
  | setControl key id control => exact setControl_exchange pair key id control
  | getControl key id =>
    simp only [access, getControl_exchange pair]
    rfl
  | mayUse key id attempt => exact mayAccess_exchange pair key id attempt _ _
  | maySet key id attempt => exact mayAccess_exchange pair key id attempt _ _
  | addEvent event id key => exact addEvent_exchange pair event id key
  | getEvents id =>
    simp only [access, getEvents_exchange pair]
    rfl
  | clearEvent key id => exact clearEvent_exchange pair key id
  | clearAllEvents id => exact clearAllEvents_exchange pair id

theorem ExchangedAt.access (h : r.ExchangedAt i r') (a : Access) :
    (r'.access a).value = (r.access a).value ∧ (r'.access a).notices = (r.access a).notices ∧
      (r.access a).registry.ExchangedAt i (r'.access a).registry := by
  obtain ⟨pair, rfl⟩ := h
  rw [access_exchange pair]
  exact ⟨rfl, rfl, pair.of_bare (access_bare r a i), rfl⟩

theorem ExchangedAt.accessAll (h : r.ExchangedAt i r') (accesses : List Access) :
    (r'.accessAll accesses).1 = (r.accessAll accesses).1 ∧
      (r.accessAll accesses).2.ExchangedAt i (r'.accessAll accesses).2 := by
  induction accesses generalizing r r' with
  | nil => exact ⟨rfl, h⟩
  | cons a rest ih =>
    obtain ⟨value, notices, after⟩ := h.access a
    obtain ⟨later, final⟩ := ih after
    exact ⟨by rw [Registry.accessAll, Registry.accessAll, value, notices, later], final⟩

/-- Access control does not depend on roles. Two registries are the same but for one row, whose two partners
are on opposite sides, with the access state seen from the opposite point of view. Then no run of accesses,
whoever makes them, tells the two apart: every answer and every notification is the same, and in the end the
registries differ as they did at the start. If one of the two partners leaves then, they do not differ any
more. -/
theorem access_does_not_depend_on_roles (related : r.ExchangedAt i r') (accesses : List Access) :
    let mine := r.accessAll accesses
    let theirs := r'.accessAll accesses
    theirs.1 = mine.1 ∧ mine.2.ExchangedAt i theirs.2 ∧
      ∀ key side id, mine.2.findVar key = some i → ((mine.2.rows.get i).partner side).id = id →
        (theirs.2.retract key id).registry = (mine.2.retract key id).registry ∧
          (theirs.2.retract key id).value = (mine.2.retract key id).value ∧
          (theirs.2.retract key id).notices.Perm (mine.2.retract key id).notices := by
  intro mine theirs
  obtain ⟨same, final⟩ := related.accessAll accesses
  refine ⟨same, final, fun key side id found partner => ?_⟩
  have exchanged : theirs.2 = mine.2.exchange i := final.exchanged
  rw [exchanged]
  exact retract_exchange final.pair found partner

/-- Two processors share a variable, both have been told of something, and one of them has set it. In one
registry the accepting partner has left and come back before, and in the other one the offering partner,
which has been the accepting one since. -/
theorem access_does_not_depend_on_roles_of_returns :
    let a := Partner.ofProcess (.single 1001) 10 5001
    let b := Partner.ofProcess (.single 1002) 20 5002
    let name := Name.ofText "LEVEL"
    let share := [Operation.matchOrMake name .general a, .matchOrMake name a.id b]
    let key := ((empty.run share).rows.get 0).key
    let after := [Operation.addEvent .useFailed a.id key, .addEvent .useFailed b.id key,
      .setState key a.id false]
    let r := empty.run (share ++ [.retract key b.id, .matchOrMake name a.id b] ++ after)
    let r' := empty.run (share ++ [.retract key a.id, .matchOrMake name b.id a] ++ after)
    let accesses := [Access.setControl key b.id .all, .mayUse key a.id 0, .setState key b.id true]
    r.ExchangedAt 0 r' ∧ (r'.accessAll accesses).1 = (r.accessAll accesses).1 ∧
      ((r'.accessAll accesses).2.retract key b.id).registry =
        ((r.accessAll accesses).2.retract key b.id).registry := by
  intro a b name share key after r r' accesses
  have partners : (r.rows.get 0).offering.id = a.id ∧ (r.rows.get 0).accepting.id = b.id := by
    decide +kernel
  have coupled : (r.rows.get 0).coupling = .coupled := by decide +kernel
  have differ : (r.rows.get 0).offering.id ≠ (r.rows.get 0).accepting.id := by
    rw [partners.1, partners.2]
    decide
  have seq : r'.seq = (r.exchange 0).seq := by decide +kernel
  have rows : r'.rows.toList = (r.exchange 0).rows.toList := by decide +kernel
  have slots : r'.slots.toList = (r.exchange 0).slots.toList := by decide +kernel
  have exchanged : r' = r.exchange 0 :=
    eq_of_tables seq (Vector.toList_inj.1 rows) (Vector.toList_inj.1 slots)
  have related : r.ExchangedAt 0 r' := ⟨⟨coupled, differ⟩, exchanged⟩
  obtain ⟨same, -, left⟩ := access_does_not_depend_on_roles related accesses
  have found : (r.accessAll accesses).2.findVar key = some 0 := by decide +kernel
  have own : (((r.accessAll accesses).2.rows.get 0).partner .accepting).id = b.id := by decide +kernel
  exact ⟨related, same, (left key .accepting b.id found own).1⟩

end Registry

end SharedVariables
