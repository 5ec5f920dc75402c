import SharedVariables.Proofs.Registry.Firing

/-!
# What is pending

The events that are pending for a processor start anew when it registers for the first time, when they
are all forgotten, and when the last mark is removed from its sides (`Operation.Restarts`). Between two
such operations nothing is lost and nothing is invented: an operation adds the events that it reports to
the processor, whoever it is done for and whatever it does to the rows (`perform_adds`), so a run adds all
that is reported during it (`run_adds`). `pending_events_are_those_fired` puts this together with what it
is to forget all events.
-/

namespace SharedVariables

namespace Row

variable {row : Row} {id : ProcessorId}

theorem Sound.hasEvent_of_free (h : row.Sound) (free : row.Free) (id : ProcessorId) :
    row.hasEvent id = false := by
  rw [h.free free, hasEvent, sideOf_empty]

theorem hasEvent_clearEvent (row : Row) (id : ProcessorId) : (row.clearEvent id).hasEvent id = false := by
  rw [hasEvent, sideOf_of_bare (bare_clearEvent ..), clearEvent]
  cases row.sideOf id with
  | none => rfl
  | some side => cases side <;> rfl

theorem sideOf_eq_none_iff :
    row.sideOf id = none ↔ ∀ side, (row.partner side).Present → (row.partner side).id ≠ id := by
  rw [← Option.not_isSome_iff_eq_none, sideOf_isSome_iff]
  simp only [not_exists, not_and, ne_eq]

/-- Only the side of the processor loses its mark. -/
theorem Sound.partner_clearEvent (h : row.Sound) (id : ProcessorId) (side : Side) :
    (row.clearEvent id).partner side =
      if (row.partner side).Present ∧ (row.partner side).id = id then
        (row.partner side).withEvent false
      else row.partner side := by
  cases hs : row.sideOf id with
  | none =>
    have stranger := sideOf_eq_none_iff.1 hs side
    rw [if_neg fun own => stranger own.1 own.2]
    simp only [Row.clearEvent, hs]
  | some own =>
    simp only [Row.clearEvent, hs]
    by_cases same : own = side
    · subst same
      rw [if_pos (sideOf_eq_some hs)]
      cases own <;> rfl
    · have other : ¬((row.partner side).Present ∧ (row.partner side).id = id) := by
        rintro ⟨present, rfl⟩
        exact same (Option.some.inj (hs.symm.trans (h.sideOf_id present)))
      rw [if_neg other]
      cases own <;> cases side <;> first | rfl | exact absurd rfl same

end Row

/-- Whether a side of the processor `id` is marked in some row. -/
def Registry.Flagged (r : Registry) (id : ProcessorId) : Prop :=
  ∃ i : RowIndex, (r.rows.get i).hasEvent id = true

instance (r : Registry) (id : ProcessorId) : Decidable (r.Flagged id) :=
  inferInstanceAs (Decidable (∃ _, _))

/-- Whether an operation makes the events of the processor `id` start anew: its registration if it had
none, the forgetting of all its events, and the removal of a mark after which none is left on its
sides. -/
def Operation.Restarts (op : Operation) (r : Registry) (id : ProcessorId) : Prop :=
  match op with
  | registerProcessor x _ _ =>
    x = id ∧ r.isRegistered id = false ∧ (r.perform op).registry.isRegistered id = true
  | clearAllEvents x => x = id
  | clearEvent _ x => x = id ∧ ¬(r.perform op).registry.Flagged id
  | _ => False

instance (op : Operation) (r : Registry) (id : ProcessorId) : Decidable (op.Restarts r id) :=
  match op with
  | .registerProcessor .. => inferInstanceAs (Decidable (_ ∧ _ ∧ _))
  | .clearAllEvents _ => inferInstanceAs (Decidable (_ = _))
  | .clearEvent .. => inferInstanceAs (Decidable (_ ∧ _))
  | .matchOrMake .. | .createOffer .. | .matchPendingOffer .. | .retract .. | .retractAllOf _
  | .retractAllBy _ | .setState .. | .setControl .. | .mayUse .. | .maySet .. | .addEvent ..
  | .unregisterProcessor _ | .unregisterPid _ | .removeStale _ => inferInstanceAs (Decidable False)

namespace Registry

variable {r r' r'' : Registry} {id : ProcessorId} {j : SlotIndex} {event event' : Event}

/-! ## Slots -/

theorem pendingEvents_of_holds (slots : SlotsSound r.slots) (hj : (r.slots.get j).Holds id) :
    r.pendingEvents id = (r.slots.get j).events := by
  simp only [pendingEvents, getSlot, findSlot_of_holds slots hj, Option.map_some]

/-- Forgetting the events of a processor empties its slot and no other one. -/
theorem emptySlotEvents_slot (slots : SlotsSound r.slots) (id : ProcessorId) (j : SlotIndex) :
    (r.emptySlotEvents id).slots.get j =
      if (r.slots.get j).Holds id then { r.slots.get j with events := .none } else r.slots.get j := by
  by_cases hj : (r.slots.get j).Holds id
  · simp only [emptySlotEvents, findSlot_of_holds slots hj, modifySlot]
    rw [get_put, if_pos rfl, if_pos hj]
  · rw [if_neg hj]
    simp only [emptySlotEvents]
    split
    · exact modifySlot_slot ‹_› hj _
    · rfl

/-! ## Marks -/

/-- Where no side is marked, no variable is named. -/
theorem firstMarked_isNone_iff (rows : RowsSound r.rows) :
    (r.firstMarked id).IsNone ↔ ¬r.Flagged id := by
  simp only [firstMarked]
  cases hi : first? r.rows fun row => !decide row.Free && row.hasEvent id with
  | some i =>
    obtain ⟨here, -⟩ := first?_eq_some_iff.1 hi
    simp only [Bool.and_eq_true, Bool.not_eq_true', decide_eq_false_iff_not] at here
    exact iff_of_false here.1 fun nowhere => nowhere ⟨i, here.2⟩
  | none =>
    refine iff_of_true rfl ?_
    rintro ⟨i, marked⟩
    have nowhere := first?_eq_none_iff.1 hi i
    simp only [marked, Bool.and_true, Bool.not_eq_false', decide_eq_true_eq] at nowhere
    rw [(rows.sound i).hasEvent_of_free nowhere] at marked
    cases marked

/-- The removal of a mark empties the slot of the processor if no mark is left, the removed one not
counted. -/
theorem clearEvent_slot (h : r.WellFormed) (key : Key) (id : ProcessorId) (j : SlotIndex) :
    (r.clearEvent key id).registry.slots.get j =
      if (r.slots.get j).Holds id ∧ ¬(r.clearEvent key id).registry.Flagged id then
        { r.slots.get j with events := .none }
      else r.slots.get j := by
  obtain ⟨cleared, slots, after⟩ : ∃ cleared : Registry, cleared.slots = r.slots ∧
      (r.clearEvent key id).registry =
        if (cleared.firstMarked id).IsNone then cleared.emptySlotEvents id else cleared := by
    refine ⟨_, ?_, rfl⟩
    split <;> rfl
  have rows : (r.clearEvent key id).registry.rows = cleared.rows := by
    rw [after]
    split
    · exact emptySlotEvents_rows id
    · rfl
  have sound : RowsSound cleared.rows := rows ▸ (h.perform (.clearEvent key id)).rows
  have flagged : (r.clearEvent key id).registry.Flagged id ↔ cleared.Flagged id := by
    rw [Flagged, rows, Flagged]
  simp only [flagged]
  rw [after]
  by_cases marked : cleared.Flagged id
  · rw [if_neg fun none => (firstMarked_isNone_iff sound).1 none marked, if_neg fun none => none.2 marked,
      slots]
  · rw [if_pos ((firstMarked_isNone_iff sound).2 marked), emptySlotEvents_slot (slots ▸ h.slots), slots]
    simp only [marked, not_false_eq_true, and_true]

theorem clearAllEvents_row_eq (rows : RowsSound r.rows) (id : ProcessorId) (i : RowIndex) :
    (r.clearAllEvents id).registry.rows.get i = (r.rows.get i).clearEvent id := by
  simp only [clearAllEvents, get_map, emptySlotEvents_rows]
  split
  · rename_i free
    rw [(rows.sound i).free free, Row.clearEvent_empty]
  · rfl

/-- All events of the processor `id` have been forgotten, and nothing of anybody else. -/
structure Forgets (r : Registry) (id : ProcessorId) (r' : Registry) : Prop where
  unmarked : ¬r'.Flagged id
  own : ∀ (i : RowIndex) (side : Side), ((r.rows.get i).partner side).Present →
    ((r.rows.get i).partner side).id = id →
    (r'.rows.get i).partner side = ((r.rows.get i).partner side).withEvent false
  others : ∀ (i : RowIndex) (side : Side),
    ¬(((r.rows.get i).partner side).Present ∧ ((r.rows.get i).partner side).id = id) →
    (r'.rows.get i).partner side = (r.rows.get i).partner side
  slots : ∀ j : SlotIndex, r'.slots.get j =
    if (r.slots.get j).Holds id then { r.slots.get j with events := .none } else r.slots.get j

theorem clearAllEvents_forgets (h : r.WellFormed) (id : ProcessorId) :
    r.Forgets id (r.clearAllEvents id).registry := by
  have partner (i : RowIndex) (side : Side) :
      ((r.clearAllEvents id).registry.rows.get i).partner side =
        if ((r.rows.get i).partner side).Present ∧ ((r.rows.get i).partner side).id = id then
          ((r.rows.get i).partner side).withEvent false
        else (r.rows.get i).partner side := by
    rw [clearAllEvents_row_eq h.rows, (h.rows.sound i).partner_clearEvent]
  refine ⟨?_, fun i side present hid => (partner i side).trans (if_pos ⟨present, hid⟩),
    fun i side other => (partner i side).trans (if_neg other), emptySlotEvents_slot h.slots id⟩
  rintro ⟨i, marked⟩
  rw [clearAllEvents_row_eq h.rows, Row.hasEvent_clearEvent] at marked
  cases marked

/-! ## One operation -/

/-- Wherever the processor `id` is registered in the end it was before, and it has got the events
`event`. -/
def Adds (r : Registry) (id : ProcessorId) (event : Event) (r' : Registry) : Prop :=
  ∀ j : SlotIndex, (r'.slots.get j).Holds id →
    (r.slots.get j).Holds id ∧ (r'.slots.get j).events = (r.slots.get j).events.union event

namespace Adds

theorem of_same (same : ∀ j : SlotIndex, (r'.slots.get j).Holds id →
    (r.slots.get j).Holds id ∧ (r'.slots.get j).events = (r.slots.get j).events) :
    r.Adds id .none r' := by
  intro j hj
  rw [Event.union_none]
  exact same j hj

theorem unchanged : r.Adds id .none r := .of_same fun _ hj => ⟨hj, rfl⟩

/-- If one slot is changed, that one must be looked at. -/
theorem modifySlot {k : SlotIndex} {f : Slot → Slot}
    (own : (f (r.slots.get k)).Holds id →
      (r.slots.get k).Holds id ∧ (f (r.slots.get k)).events = (r.slots.get k).events) :
    r.Adds id .none (r.modifySlot k f) := by
  refine .of_same fun j hj => ?_
  simp only [Registry.modifySlot] at hj ⊢
  rw [get_put] at hj ⊢
  by_cases hkj : k = j
  · subst hkj
    rw [if_pos rfl] at hj ⊢
    exact own hj
  · rw [if_neg hkj] at hj ⊢
    exact ⟨hj, rfl⟩

theorem trans (h : r.Adds id event r') (h' : r'.Adds id event' r'') :
    r.Adds id (event.union event') r'' := by
  intro j hj
  obtain ⟨hj', events'⟩ := h' j hj
  obtain ⟨hj₀, events⟩ := h j hj'
  exact ⟨hj₀, by rw [events', events, Event.union_assoc]⟩

end Adds

theorem Records.adds {fired : ProcessorId → Event} (h : r.Records fired r') (id : ProcessorId) :
    r.Adds id (fired id) r' :=
  fun j hj => ⟨h.holds.1 hj, h.events j id (h.holds.1 hj)⟩

/-- A registration that is refreshed keeps its events, and so do those of others. -/
theorem registerProcessor_adds {x : ProcessorId} {pid : UInt32} {port : UInt16}
    (goesOn : ¬(Operation.registerProcessor x pid port).Restarts r id) :
    r.Adds id .none (r.registerProcessor x pid port).registry := by
  by_cases present : (Partner.ofProcess x pid port).Present
  · cases hk : r.findSlot x with
    | some k =>
      simp only [registerProcessor, present, ↓reduceIte, hk]
      exact .modifySlot fun hj => ⟨⟨(findSlot_eq_some hk).1, hj.2⟩, rfl⟩
    | none =>
      cases hi : first? r.slots fun slot => !decide slot.Used with
      | some k =>
        have registry : (r.registerProcessor x pid port).registry =
            r.modifySlot k fun _ => ⟨.ofProcess x pid port, .none⟩ := by
          simp only [registerProcessor, present, ↓reduceIte, hk, hi]
        have enrolled : (r.registerProcessor x pid port).registry.isRegistered x = true := by
          refine isRegistered_iff.2 ⟨k, ?_⟩
          rw [registry, Registry.modifySlot, get_put, if_pos rfl]
          exact ⟨present, rfl⟩
        rw [registry]
        refine .modifySlot fun hj => ?_
        obtain rfl : x = id := hj.2
        exact absurd ⟨rfl, by rw [isRegistered, hk]; rfl, enrolled⟩ goesOn
      | none =>
        simp only [registerProcessor, present, ↓reduceIte, hk, hi]
        exact .unchanged
  · rw [registerProcessor, if_neg present]
    exact .unchanged

theorem unregisterProcessor_adds (x : ProcessorId) :
    r.Adds id .none (r.unregisterProcessor x).registry := by
  simp only [unregisterProcessor]
  split
  · exact .modifySlot fun hj => absurd hj.1 Partner.not_present_empty
  · exact .unchanged

theorem unregisterWhere_adds (which : Partner → Bool) :
    r.Adds id .none (r.unregisterWhere which).registry := by
  refine .of_same fun j hj => ?_
  simp only [unregisterWhere, get_map] at hj ⊢
  split at hj
  · exact absurd hj.1 Partner.not_present_empty
  · rename_i stays
    rw [if_neg stays]
    exact ⟨hj, rfl⟩

theorem clearEvent_adds (h : r.WellFormed) {key : Key} {x : ProcessorId}
    (goesOn : ¬(Operation.clearEvent key x).Restarts r id) :
    r.Adds id .none (r.clearEvent key x).registry := by
  refine .of_same fun j => ?_
  rw [clearEvent_slot h]
  split
  · rename_i emptied
    intro hj
    obtain rfl : x = id := emptied.1.2.symm.trans hj.2
    exact absurd ⟨rfl, emptied.2⟩ goesOn
  · exact fun hj => ⟨hj, rfl⟩

theorem clearAllEvents_adds (h : r.WellFormed) {x : ProcessorId} (other : x ≠ id) :
    r.Adds id .none (r.clearAllEvents x).registry := by
  refine .of_same fun j => ?_
  rw [(clearAllEvents_forgets h x).slots]
  split
  · rename_i emptied
    exact fun hj => absurd (emptied.2.symm.trans hj.2) other
  · exact fun hj => ⟨hj, rfl⟩

/-- An operation that does not make the events of a processor start anew adds those that it reports to
the processor. -/
theorem perform_adds (h : r.WellFormed) {op : Operation} (goesOn : ¬op.Restarts r id) :
    r.Adds id (op.fired r id) (r.perform op).registry := by
  cases op with
  | matchOrMake name addressee p => exact (matchOrMake_records h.slots name addressee p).adds id
  | createOffer name addressee p => exact (createOffer_records name addressee p).adds id
  | matchPendingOffer name addressee p =>
    exact (matchPendingOffer_records h.slots name addressee p).adds id
  | retract key x => exact (retract_records h key x).adds id
  | retractAllOf pid =>
    have swept := sweep_records (finds_leavingWithPid pid) (findsFirst_leavingWithPid pid) Nat.two_pos h
    simp only [perform, Outcome.map]
    exact swept.adds id
  | retractAllBy x =>
    have swept := sweep_records (finds_sideOf x) (findsFirst_sideOf x) Nat.one_pos h
    simp only [perform, Outcome.map]
    exact swept.adds id
  | setState key x used =>
    cases used with
    | true => exact (use_records h.slots key x).adds id
    | false => exact (set_records h.slots key x).adds id
  | setControl key x control => exact (setControl_records h.slots key x control).adds id
  | mayUse key x attempt => exact (mayAccess_records h.slots key x attempt _ _).adds id
  | maySet key x attempt => exact (mayAccess_records h.slots key x attempt _ _).adds id
  | addEvent event x key => exact (addEvent_records h.slots event x key).adds id
  | clearEvent key x => exact clearEvent_adds h goesOn
  | clearAllEvents x => exact clearAllEvents_adds h goesOn
  | registerProcessor x pid port => exact registerProcessor_adds goesOn
  | unregisterProcessor x => exact unregisterProcessor_adds x
  | unregisterPid pid => exact unregisterWhere_adds (·.pid = pid)
  | removeStale alive =>
    have cleared : (r.unregisterWhere (!alive ·.pid)).registry.WellFormed :=
      h.unregisterWhere (!alive ·)
    have swept := (sweep_records (finds_leavingDead alive) (findsFirst_leavingDead alive) Nat.two_pos
      cleared).adds id
    have all := (unregisterWhere_adds (!alive ·.pid)).trans swept
    rw [Event.none_union] at all
    simp only [perform, Outcome.map]
    rw [removeStale_registry]
    exact all

/-- Nothing is pending once the events of a processor start anew. -/
theorem perform_restarts (h : r.WellFormed) {op : Operation} (anew : op.Restarts r id)
    (hj : ((r.perform op).registry.slots.get j).Holds id) :
    ((r.perform op).registry.slots.get j).events = .none := by
  cases op with
  | registerProcessor x pid port =>
    obtain ⟨rfl, before, -⟩ := anew
    have unregistered (held : (r.slots.get j).Holds x) : False := by
      rw [isRegistered_iff.2 ⟨j, held⟩] at before
      cases before
    change ((r.registerProcessor x pid port).registry.slots.get j).Holds x at hj
    change ((r.registerProcessor x pid port).registry.slots.get j).events = .none
    rcases registerProcessor_slot (r := r) x pid port j with same | ⟨held, -⟩ | ⟨-, new⟩
    · rw [same] at hj
      exact (unregistered hj).elim
    · exact (unregistered held).elim
    · rw [new]
  | clearAllEvents x =>
    obtain rfl : x = id := anew
    change ((r.clearAllEvents x).registry.slots.get j).Holds x at hj
    change ((r.clearAllEvents x).registry.slots.get j).events = .none
    rw [(clearAllEvents_forgets h x).slots] at hj ⊢
    split at hj
    · rename_i held
      rw [if_pos held]
    · exact absurd hj ‹_›
  | clearEvent key x =>
    obtain ⟨rfl, unmarked⟩ := anew
    change ((r.clearEvent key x).registry.slots.get j).Holds x at hj
    change ((r.clearEvent key x).registry.slots.get j).events = .none
    rw [clearEvent_slot h] at hj ⊢
    split at hj
    · rename_i held
      rw [if_pos held]
    · rename_i other
      exact absurd ⟨hj, unmarked⟩ other
  | _ => exact anew.elim

/-! ## Runs -/

/-- The events that are reported to the processor `id` during a run. -/
def firedIn (id : ProcessorId) : Registry → List Operation → Event
  | _, [] => .none
  | r, op :: ops => (op.fired r id).union ((r.perform op).registry.firedIn id ops)

/-- Whether no operation of a run makes the events of the processor `id` start anew. -/
def GoesOn (id : ProcessorId) : Registry → List Operation → Prop
  | _, [] => True
  | r, op :: ops => ¬op.Restarts r id ∧ (r.perform op).registry.GoesOn id ops

/-- The events of the processor `id` start anew with the operation `op`, and not again in the run that
comes after it. -/
structure LatestRestart (id : ProcessorId) (before : List Operation) (op : Operation)
    (after : List Operation) : Prop where
  restarts : op.Restarts (empty.run before) id
  goesOn : (empty.run (before ++ [op])).GoesOn id after

instance decidableGoesOn (id : ProcessorId) :
    (r : Registry) → (ops : List Operation) → Decidable (r.GoesOn id ops)
  | _, [] => inferInstanceAs (Decidable True)
  | r, op :: ops =>
    have := decidableGoesOn id (r.perform op).registry ops
    inferInstanceAs (Decidable (_ ∧ _))

theorem run_adds (h : r.WellFormed) {ops : List Operation} (goesOn : r.GoesOn id ops) :
    r.Adds id (r.firedIn id ops) (r.run ops) := by
  induction ops generalizing r with
  | nil => exact .unchanged
  | cons op ops ih => exact (perform_adds h goesOn.1).trans (ih (h.perform op) goesOn.2)

/-- Who is registered after some run has been registered in the course of it. -/
theorem exists_latestRestart {ops : List Operation}
    (registered : (empty.run ops).isRegistered id = true) :
    ∃ before op after, ops = before ++ op :: after ∧ LatestRestart id before op after := by
  have step {r : Registry} {op : Operation} {ops : List Operation} (goesOn : ¬op.Restarts r id)
      (later : (r.perform op).registry.GoesOn id ops) : r.GoesOn id (op :: ops) := ⟨goesOn, later⟩
  have last : empty.GoesOn id ops ∨ ∃ before op after, ops = before ++ op :: after ∧
      op.Restarts (empty.run before) id ∧ ((empty.run before).perform op).registry.GoesOn id after :=
    exists_last_break _ step trivial
  rcases last with goesOn | ⟨before, op, after, hops, anew, goesOn⟩
  · obtain ⟨j, hj⟩ := isRegistered_iff.1 registered
    have held := (run_adds empty_wellFormed goesOn j hj).1
    rw [slots_empty] at held
    exact absurd held.1 Partner.not_present_empty
  · exact ⟨before, op, after, hops, anew, run_snoc empty before op ▸ goesOn⟩

/-- What is pending for a processor is what has been reported to it since its events started anew. -/
theorem LatestRestart.pendingEvents {before after : List Operation} {op : Operation}
    (latest : LatestRestart id before op after)
    (registered : (empty.run (before ++ op :: after)).isRegistered id = true) :
    (empty.run (before ++ op :: after)).pendingEvents id =
      (empty.run (before ++ [op])).firedIn id after := by
  obtain ⟨j, hj⟩ := isRegistered_iff.1 registered
  rw [pendingEvents_of_holds (run_empty_wellFormed _).slots hj]
  rw [run_cut] at hj ⊢
  obtain ⟨held, events⟩ := run_adds (run_empty_wellFormed _) latest.goesOn j hj
  rw [events]
  rw [run_snoc] at held ⊢
  rw [perform_restarts (run_empty_wellFormed before) latest.restarts held, Event.none_union]

/-- Events are neither lost nor invented. Whoever is registered after a run has been registered in the
course of it, so its events have started anew at some latest operation: its registration, the forgetting
of all its events, or the removal of its last mark. What is forgotten now, and returned, is all that has
been reported to the processor since then and nothing else. No other operation takes an event away: it
adds what it reports, be it the refresh of a registration, a retract or the forgetting of the events of
somebody else. When all events of the processor are forgotten then no side of it is marked any more, and
the marks and the events of all others are as they were. -/
theorem pending_events_are_those_fired {ops : List Operation} {id : ProcessorId}
    (registered : (empty.run ops).isRegistered id = true) :
    let r := empty.run ops
    (∃ before op after, ops = before ++ op :: after ∧ LatestRestart id before op after) ∧
      (∀ before op after, ops = before ++ op :: after → LatestRestart id before op after →
        (r.clearAllEvents id).value = (empty.run (before ++ [op])).firedIn id after) ∧
      (∀ op : Operation, ¬op.Restarts r id → (r.perform op).registry.isRegistered id = true →
        (r.perform op).registry.pendingEvents id = (r.pendingEvents id).union (op.fired r id)) ∧
      r.Forgets id (r.clearAllEvents id).registry := by
  intro r
  have well : r.WellFormed := run_empty_wellFormed ops
  refine ⟨exists_latestRestart registered, ?_, fun op goesOn stays => ?_, clearAllEvents_forgets well id⟩
  · rintro before op after rfl latest
    exact latest.pendingEvents registered
  · obtain ⟨j, hj⟩ := isRegistered_iff.1 stays
    obtain ⟨held, events⟩ := perform_adds well goesOn j hj
    rw [pendingEvents_of_holds (well.perform op).slots hj, pendingEvents_of_holds well.slots held, events]

/-- A processor makes an offer, which is taken up, and the other partner restricts it, while the
registration is refreshed and the other partner forgets its own events; then the other partner leaves. The
processor is told of the match, of the restriction and of the retract. -/
theorem pending_events_are_those_fired_of_three :
    let a := Partner.ofProcess (.single 1001) 10 5001
    let b := Partner.ofProcess (.single 1002) 20 5002
    let name := Name.ofText "LEVEL"
    let enroll := Operation.registerProcessor a.id a.pid a.port
    let share := [Operation.matchOrMake name .general a, .matchOrMake name a.id b]
    let key := ((empty.run share).rows.get 0).key
    let later := share ++ [.setControl key b.id .setByMe, .registerProcessor a.id a.pid 5003,
      .clearAllEvents b.id, .retract key b.id]
    let r := empty.run (enroll :: later)
    r.isRegistered a.id = true ∧ (r.clearAllEvents a.id).value =
      (Event.offerMatched.union .accessControlChanged).union .offerRetracted := by
  intro a b name enroll share key later r
  have registered : r.isRegistered a.id = true := by decide +kernel
  obtain ⟨-, pending, -, -⟩ := pending_events_are_those_fired registered
  refine ⟨registered, (pending [] enroll later rfl ⟨?_, ?_⟩).trans ?_⟩
  · decide +kernel
  · decide +kernel
  · decide +kernel

end Registry

end SharedVariables
