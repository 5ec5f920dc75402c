import SharedVariables.Proofs.Registry.Announcing
import SharedVariables.Proofs.Registry.Gating

/-!
# What an operation reports, and to whom

`Operation.fired` says which events an operation reports to a processor: an access, a refusal and a
change of control bits to the partner of whoever acts, a match to the one that made the offer, a retract
to the one that is left behind. `Registry.Records` says that just these get into the slots. It holds of an
event that is fired at a side of a row (`fireEvent_records`), so of each operation that acts in one row;
the operations that go through the table record what they record in each row (`sweep_records`), once for
every partner that is left behind.
-/

namespace SharedVariables

namespace Event

variable {event : Event} {a b : Prop} [Decidable a] [Decidable b]

/-- An event, in case it happens. -/
def when (event : Event) (happens : Prop) [Decidable happens] : Event :=
  if happens then event else .none

theorem union_none (e : Event) : e.union .none = e := by
  simp only [union, none, UInt32.or_zero]

theorem none_union (e : Event) : none.union e = e := by
  simp only [union, none, UInt32.zero_or]

theorem union_assoc (e e' e'' : Event) : (e.union e').union e'' = e.union (e'.union e'') := by
  simp only [union, UInt32.or_assoc]

theorem when_of (h : a) : event.when a = event := if_pos h

theorem when_of_not (h : ¬a) : event.when a = .none := if_neg h

theorem when_congr (h : a ↔ b) : event.when a = event.when b := by
  simp only [when, h]

/-- What is reported twice is in the set once. -/
theorem when_union_when : (event.when a).union (event.when b) = event.when (a ∨ b) := by
  have self : event.union event = event := by simp only [union, UInt32.or_self]
  by_cases ha : a <;> by_cases hb : b <;> simp only [when, ha, hb, or_true, or_false, ↓reduceIte, self,
    union_none, none_union]

end Event

/-- The processor that stays in a row when the first partner that satisfies `which` leaves it. -/
def Row.leftBehind (row : Row) (which : Partner → Bool) : Option ProcessorId :=
  (row.sideWith which).bind fun side =>
    if (row.partner side.other).Present then some (row.partner side.other).id else none

namespace Registry

/-- The processor that shares the variable `key` with the processor `id`. -/
def peerId (r : Registry) (key : Key) (id : ProcessorId) : Option ProcessorId :=
  (r.getPeer key id).map Partner.id

/-- The processor whose offer a request completes. -/
def matchedId (r : Registry) (name : Name) (addressee requester : ProcessorId) : Option ProcessorId :=
  (r.findPending name addressee requester).map fun i => (r.rows.get i).offering.id

/-- Whether the processor `id` is left behind in some row by a partner that satisfies `which`. -/
def LeavesBehind (r : Registry) (which : Partner → Bool) (id : ProcessorId) : Prop :=
  ∃ i : RowIndex, (r.rows.get i).leftBehind which = some id

instance (r : Registry) (which : Partner → Bool) (id : ProcessorId) :
    Decidable (r.LeavesBehind which id) :=
  inferInstanceAs (Decidable (∃ _, _))

end Registry

/-- The events that an operation reports to the processor `id`. Who uses its own value again does nothing
that the other partner is told of. -/
def Operation.fired (op : Operation) (r : Registry) (id : ProcessorId) : Event :=
  match op with
  | matchOrMake name addressee p =>
    .when .offerMatched (p.Present ∧ r.matchedId name addressee p.id = some id)
  | matchPendingOffer name addressee p _ =>
    .when .offerMatched (r.matchedId name addressee p.id = some id)
  | retract key x => .when .offerRetracted (r.peerId key x = some id)
  | retractAllOf pid => .when .offerRetracted (r.LeavesBehind (·.pid = pid) id)
  | retractAllBy x => .when .offerRetracted (r.LeavesBehind (·.id = x) id)
  | removeStale alive => .when .offerRetracted (r.LeavesBehind (!alive ·.pid) id)
  | setState key x true =>
    .when .useSuccess (r.peerId key x = some id ∧ (r.getControl key x).contains .useByMe = true ∧
      r.seenState key x ≠ .offeringHasSet)
  | setState key x false =>
    .when .setSuccess (r.peerId key x = some id ∧ (r.getControl key x).contains .setByMe = true)
  | setControl key x _ => .when .accessControlChanged (r.peerId key x = some id)
  | mayUse key x attempt =>
    .when .useFailed (r.peerId key x = some id ∧ attempt = 0 ∧ (r.mayUse key x attempt).value = false)
  | maySet key x attempt =>
    .when .setFailed (r.peerId key x = some id ∧ attempt = 0 ∧ (r.maySet key x attempt).value = false)
  | addEvent event x _ => event.when (x = id)
  | createOffer .. | clearEvent .. | clearAllEvents .. => .none
  | registerProcessor .. | unregisterProcessor .. | unregisterPid .. => .none

namespace Registry

variable {r r' r'' : Registry} {i : RowIndex} {side : Side} {id : ProcessorId} {key : Key}
variable {fired fired' : ProcessorId → Event}

/-- Slots keep their processors, and each processor that has one gets the events that are reported to
it. -/
structure Records (r : Registry) (fired : ProcessorId → Event) (r' : Registry) : Prop where
  partner : ∀ j : SlotIndex, (r'.slots.get j).partner = (r.slots.get j).partner
  events : ∀ (j : SlotIndex) (id : ProcessorId), (r.slots.get j).Holds id →
    (r'.slots.get j).events = (r.slots.get j).events.union (fired id)

namespace Records

theorem quiet (h : r'.slots = r.slots) : r.Records (fun _ => .none) r' where
  partner j := by rw [h]
  events j id _ := by rw [h, Event.union_none]

theorem congr (h : r.Records fired r') (same : ∀ id, fired id = fired' id) : r.Records fired' r' where
  partner := h.partner
  events j id hj := by rw [← same, h.events j id hj]

theorem holds (h : r.Records fired r') {j : SlotIndex} :
    (r'.slots.get j).Holds id ↔ (r.slots.get j).Holds id := by
  rw [Slot.Holds, Slot.Holds, Slot.Used, Slot.Used, h.partner j]

theorem trans (h : r.Records fired r') (h' : r'.Records fired' r'') :
    r.Records (fun id => (fired id).union (fired' id)) r'' where
  partner j := (h'.partner j).trans (h.partner j)
  events j id hj := by
    rw [h'.events j id (h.holds.2 hj), h.events j id hj, Event.union_assoc]

/-- Nothing is recorded of what does not happen. -/
theorem never {event : Event} {P : ProcessorId → Prop} [DecidablePred P] (h : r'.slots = r.slots)
    (not : ∀ id, ¬P id) : r.Records (fun id => event.when (P id)) r' :=
  (quiet h).congr fun id => (Event.when_of_not (not id)).symm

theorem congr_when {event : Event} {P Q : ProcessorId → Prop} [DecidablePred P] [DecidablePred Q]
    (h : r.Records (fun id => event.when (P id)) r') (same : ∀ id, P id ↔ Q id) :
    r.Records (fun id => event.when (Q id)) r' :=
  h.congr fun id => Event.when_congr (same id)

/-- What records nothing may follow. -/
theorem trans_quiet (h : r.Records fired r') (h' : r'.Records (fun _ => .none) r'') :
    r.Records fired r'' :=
  (h.trans h').congr fun _ => Event.union_none _

theorem of_slots {s : Registry} (h : r.Records fired r') (same : r.slots = s.slots) :
    s.Records fired r' := by
  have before : s.Records (fun _ => .none) r := .quiet same
  exact (before.trans h).congr fun _ => Event.none_union _

end Records

/-! ## One event -/

theorem addToSlot_records (slots : SlotsSound r.slots) (id : ProcessorId) (event : Event) :
    r.Records (fun x => event.when (id = x)) (r.addToSlot id event) where
  partner := by
    have evolves : r.Evolves (fun _ => False) (fun _ => False) (r.addToSlot id event) :=
      addToSlot_evolves ..
    exact evolves.partner
  events j x hj := by
    by_cases hx : id = x
    · subst hx
      rw [Event.when_of rfl, addToSlot_events slots hj]
    · rw [Event.when_of_not hx, Event.union_none]
      have other : ¬(r.slots.get j).Holds id := fun held => hx (held.2.symm.trans hj.2)
      simp only [addToSlot]
      split
      · rw [modifySlot_slot ‹_› other]
      · rfl

/-- An event that is fired at a side of a row is recorded for the partner there, and for nobody else. -/
theorem fireEvent_records (slots : SlotsSound r.slots) (i : RowIndex) (side : Side) (event : Event) :
    r.Records (fun x => event.when (((r.rows.get i).partner side).Present ∧
      ((r.rows.get i).partner side).id = x)) (r.fireEvent i side event).registry := by
  simp only [fireEvent]
  split
  · rename_i present
    have recorded := addToSlot_records (r := r.modifyRow i (·.markEvent side)) slots
      ((r.rows.get i).partner side).id event
    refine (recorded.of_slots (s := r) rfl).congr_when fun x => ?_
    simp only [present, true_and]
  · rename_i absent
    refine .never rfl fun x => ?_
    exact fun h => absent h.1

theorem addEvent_records (slots : SlotsSound r.slots) (event : Event) (id : ProcessorId) (key : Key) :
    r.Records (fun x => event.when (id = x)) (r.addEvent event id key).registry := by
  simp only [addEvent]
  split
  · rename_i j side hc
    obtain ⟨k, -, hs⟩ := Option.bind_eq_some_iff.1 hc
    obtain ⟨side', hside, heq⟩ := Option.map_eq_some_iff.1 hs
    obtain ⟨rfl, rfl⟩ := Prod.mk.inj heq
    obtain ⟨present, hid⟩ := Row.sideOf_eq_some hside
    refine (fireEvent_records slots k side' event).congr_when fun x => ?_
    rw [hid]
    exact and_iff_right present
  · exact addToSlot_records slots id event

/-! ## Operations of a partner -/

theorem peerId_of_callerRow (hc : r.callerRow key id = some (i, side)) :
    r.peerId key id =
      if ((r.rows.get i).partner side.other).Present then some ((r.rows.get i).partner side.other).id
      else none := by
  obtain ⟨hi, hs⟩ := callerRow_eq_some hc
  simp only [peerId, getPeer, getVar, hi, hs, Option.map_some, Option.bind_eq_bind, Option.bind_some]
  split <;> rfl

/-- Whoever is no partner of a variable shares it with nobody. -/
theorem peerId_of_stranger (hc : r.callerRow key id = none) (x : ProcessorId) :
    r.peerId key id ≠ some x := by
  simp only [callerRow, Option.bind_eq_bind, Option.bind_eq_none_iff, Option.pure_def] at hc
  have alone : r.peerId key id = none := by
    simp only [peerId, getPeer, getVar, Option.map_eq_none_iff, Option.bind_eq_bind,
      Option.bind_eq_none_iff, Option.map_eq_some_iff]
    rintro row ⟨j, hj, rfl⟩ s hs
    exact absurd (hc j hj s hs) (Option.some_ne_none _)
  rw [alone]
  exact (Option.some_ne_none x).symm

theorem bare_modifyRow {f : Row → Row} (bare : (f (r.rows.get i)).bare = (r.rows.get i).bare) :
    ((r.modifyRow i f).rows.get i).bare = (r.rows.get i).bare := by
  rw [modifyRow, get_put, if_pos rfl, bare]

/-- What is fired at the other side of a partner's row is recorded for the other partner. -/
theorem fireEvent_other_records (slots : SlotsSound r.slots)
    (hc : r.callerRow key id = some (i, side)) {s : Registry} (same : s.slots = r.slots)
    (bare : (s.rows.get i).bare = (r.rows.get i).bare) (event : Event) :
    r.Records (fun x => event.when (r.peerId key id = some x))
      (s.fireEvent i side.other event).registry := by
  have recorded := fireEvent_records (r := s) (same ▸ slots) i side.other event
  refine (recorded.of_slots same).congr_when fun x => ?_
  rw [peerId_of_callerRow hc, Row.present_of_bare bare, Row.id_of_bare bare]
  simp only [Option.ite_none_right_eq_some, Option.some.injEq]

/-- A partner that uses the variable tells the other one if it is controlled and there is something to
use. -/
theorem use_records (slots : SlotsSound r.slots) (key : Key) (id : ProcessorId) :
    r.Records (fun x => Event.useSuccess.when (r.peerId key id = some x ∧
      (r.getControl key id).contains .useByMe = true ∧ r.seenState key id ≠ .offeringHasSet))
      (r.setState key id true).registry := by
  cases hc : r.callerRow key id with
  | none =>
    simp only [setState, hc]
    exact .never rfl fun x h => peerId_of_stranger hc x h.1
  | some place =>
    obtain ⟨i, side⟩ := place
    have control : r.getControl key id = ((r.rows.get i).view side).1 := by rw [getControl, hc]
    simp only [setState, hc, ↓reduceIte, control, seenState_of_callerRow hc]
    split
    · rename_i own
      exact .never rfl fun x h => h.2.2 own
    rename_i foreign
    split
    · rename_i restricted
      refine (fireEvent_other_records slots hc (s := r.modifyRow i _) rfl (bare_modifyRow rfl) _).congr_when fun x => ?_
      exact (and_iff_left ⟨restricted, foreign⟩).symm
    · rename_i free
      exact .never rfl fun x h => free h.2.1

theorem set_records (slots : SlotsSound r.slots) (key : Key) (id : ProcessorId) :
    r.Records (fun x => Event.setSuccess.when (r.peerId key id = some x ∧
      (r.getControl key id).contains .setByMe = true)) (r.setState key id false).registry := by
  cases hc : r.callerRow key id with
  | none =>
    simp only [setState, hc]
    exact .never rfl fun x h => peerId_of_stranger hc x h.1
  | some place =>
    obtain ⟨i, side⟩ := place
    have control : r.getControl key id = ((r.rows.get i).view side).1 := by rw [getControl, hc]
    simp only [setState, hc, Bool.false_eq_true, ↓reduceIte, control]
    split
    · rename_i restricted
      refine (fireEvent_other_records slots hc (s := r.modifyRow i _) rfl (bare_modifyRow rfl) _).congr_when fun x => ?_
      exact (and_iff_left restricted).symm
    · rename_i free
      exact .never rfl fun x h => free h.2

/-- A refusal is recorded for the other partner on the first attempt. -/
theorem mayAccess_records (slots : SlotsSound r.slots) (key : Key) (id : ProcessorId) (attempt : Int32)
    (byMe : Control) (failed : Event) :
    r.Records (fun x => failed.when (r.peerId key id = some x ∧ attempt = 0 ∧
      (r.mayAccess key id attempt byMe failed).value = false))
      (r.mayAccess key id attempt byMe failed).registry := by
  cases hc : r.callerRow key id with
  | none =>
    simp only [mayAccess, hc]
    exact .never rfl fun x h => peerId_of_stranger hc x h.1
  | some place =>
    obtain ⟨i, side⟩ := place
    simp only [mayAccess, hc]
    split
    · refine .never rfl fun x h => ?_
      cases h.2.2
    split
    · rename_i first
      refine (fireEvent_other_records slots hc rfl rfl failed).congr_when fun x => ?_
      simp only [first, Outcome.map, and_self, and_true]
    · rename_i again
      exact .never rfl fun x h => again h.2.1

theorem coupled_of_present {row : Row} (present : (row.partner side).Present)
    (other : (row.partner side.other).Present) : row.coupling = .coupled :=
  Row.coupling_eq_coupled_iff.2 (by cases side; exacts [⟨present, other⟩, ⟨other, present⟩])

theorem setControl_records (slots : SlotsSound r.slots) (key : Key) (id : ProcessorId)
    (control : Control) :
    r.Records (fun x => Event.accessControlChanged.when (r.peerId key id = some x))
      (r.setControl key id control).registry := by
  cases hc : r.callerRow key id with
  | none =>
    simp only [setControl, hc]
    exact .never rfl fun x h => peerId_of_stranger hc x h
  | some place =>
    obtain ⟨i, side⟩ := place
    have bare : ((r.modifyRow i (·.withControl side control)).rows.get i).bare = (r.rows.get i).bare :=
      bare_modifyRow (Row.bare_withControl ..)
    simp only [setControl, hc, Outcome.andThen, unchanged]
    split
    · exact fireEvent_other_records slots hc (s := r.modifyRow i (·.withControl side control)) rfl bare _
    · rename_i alone
      refine .never rfl fun x h => alone ?_
      rw [Row.coupling_of_bare bare]
      have present := (Row.sideOf_eq_some (callerRow_eq_some hc).2).1
      rw [peerId_of_callerRow hc, Option.ite_none_right_eq_some] at h
      exact coupled_of_present present h.1

/-! ## Offers -/

theorem matchPendingOffer_records (slots : SlotsSound r.slots) (name : Name) (addressee : ProcessorId)
    (p : Partner) :
    r.Records (fun x => Event.offerMatched.when (r.matchedId name addressee p.id = some x))
      (r.matchPendingOffer name addressee p).registry := by
  cases hi : r.findPending name addressee p.id with
  | none =>
    simp only [matchPendingOffer, hi]
    refine .never rfl fun x h => ?_
    rw [matchedId, hi] at h
    cases h
  | some i =>
    obtain ⟨offered, -, -⟩ := Row.isCompletedBy_iff.1 (first?_eq_some_iff.1 hi).1
    have accepted : (r.modifyRow i (·.accept name p)).rows.get i = (r.rows.get i).accept name p :=
      modifyRow_self ..
    have recorded := fireEvent_records (r := r.modifyRow i (·.accept name p)) slots i .offering
      .offerMatched
    simp only [matchPendingOffer, hi]
    refine (recorded.of_slots (s := r) rfl).congr_when fun x => ?_
    rw [accepted, matchedId, hi, Option.map_some, Option.some.injEq]
    exact and_iff_right (Row.coupling_eq_offered_iff.1 offered).1

theorem createOffer_records (name : Name) (addressee : ProcessorId) (p : Partner) :
    r.Records (fun _ => .none) (r.createOffer name addressee p).registry := by
  by_cases hp : p.Present
  · cases hi : first? r.rows (fun row => row.Free) with
    | none => rw [createOffer_of_full name addressee hp hi]; exact .quiet rfl
    | some i =>
      obtain ⟨-, -, -, -, slots, -⟩ := createOffer_of_free name addressee hp hi
      exact .quiet slots
  · rw [createOffer_of_absent name addressee hp]
    exact .quiet rfl

theorem matchOrMake_records (slots : SlotsSound r.slots) (name : Name) (addressee : ProcessorId)
    (p : Partner) :
    r.Records ((Operation.matchOrMake name addressee p).fired r)
      (r.matchOrMake name addressee p).registry := by
  by_cases present : p.Present
  · have matched := matchPendingOffer_records slots name addressee p
    have shared : r.Records (fun x => Event.offerMatched.when (r.matchedId name addressee p.id = some x))
        (r.matchOrMake name addressee p).registry := by
      simp only [matchOrMake, present, ↓reduceIte, Outcome.andThen]
      split
      · exact matched
      · exact matched.trans_quiet (createOffer_records name addressee p)
    exact shared.congr_when fun x => (and_iff_right present).symm
  · rw [matchOrMake, if_neg present]
    exact .never rfl fun x h => present h.1

/-! ## Retracts -/

theorem retractSide_records (h : r.WellFormed) (present : ((r.rows.get i).partner side).Present) :
    r.Records (fun x => Event.offerRetracted.when (((r.rows.get i).partner side.other).Present ∧
      ((r.rows.get i).partner side.other).id = x)) (r.retractSide i side).registry := by
  have sound := h.rows.sound i
  have used := sound.not_free_of_present present
  have changed : (r.modifyRow i (·.leave side)).rows.get i = (r.rows.get i).leave side :=
    modifyRow_self ..
  simp only [retractSide, changed]
  cases hc : (r.rows.get i).coupling with
  | none => exact absurd hc (sound.coupling_ne_none used)
  | offered =>
    obtain rfl := Row.Sound.side_of_offered hc present
    have free : Row.empty.Free := rfl
    rw [Row.leave_of_offered hc, if_pos free]
    refine .never rfl fun x h => ?_
    exact (Row.coupling_eq_offered_iff.1 hc).2 h.1
  | coupled =>
    have left := Row.leave_of_coupled hc side
    have used' : ¬((r.rows.get i).leave side).Free := by rw [left]; exact used
    rw [if_neg used']
    have recorded := fireEvent_records (r := r.modifyRow i (·.leave side)) h.slots i .offering
      .offerRetracted
    refine (recorded.of_slots (s := r) rfl).congr fun x => ?_
    rw [changed, left]
    rfl

theorem retract_records (h : r.WellFormed) (key : Key) (id : ProcessorId) :
    r.Records (fun x => Event.offerRetracted.when (r.peerId key id = some x))
      (r.retract key id).registry := by
  cases hc : r.callerRow key id with
  | none =>
    have same : (r.retract key id).registry = r := by
      cases hi : r.findVar key with
      | none => simp only [retract, hi, unchanged]
      | some i =>
        have hs : (r.rows.get i).sideOf id = none := by
          simpa only [callerRow, hi, Option.bind_eq_bind, Option.bind_some, Option.pure_def,
            Option.bind_eq_none_iff, reduceCtorEq, imp_false, ← Option.eq_none_iff_forall_ne_some]
            using hc
        simp only [retract, hi, hs, unchanged]
    rw [same]
    exact .never rfl fun x h => peerId_of_stranger hc x h
  | some place =>
    obtain ⟨i, side⟩ := place
    obtain ⟨hi, hs⟩ := callerRow_eq_some hc
    rw [retract_eq_retractSide hi hs]
    refine (retractSide_records h (Row.sideOf_eq_some hs).1).congr_when fun x => ?_
    rw [peerId_of_callerRow hc, Option.ite_none_right_eq_some, Option.some.injEq]

/-! ## Going through the table -/

section Sweep

variable {leaving : Row → Option ProcessorId} {which : Partner → Bool}

/-- Whether `leaving` finds the first partner that satisfies `which`. -/
def FindsFirst (leaving : Row → Option ProcessorId) (which : Partner → Bool) : Prop :=
  ∀ row : Row, row.Sound →
    leaving row = (row.sideWith which).map fun side => (row.partner side).id

/-- Nobody is left behind in a row that is not coupled. -/
theorem retractWhile_quiet (finds : Finds leaving) (fuel : Nat) (h : r.WellFormed)
    (alone : (r.rows.get i).coupling ≠ .coupled) :
    r.Records (fun _ => .none) (retractWhile leaving i fuel r).registry := by
  induction fuel generalizing r with
  | zero => exact .quiet rfl
  | succ fuel ih =>
    rw [retractWhile]
    split
    · exact .quiet rfl
    rename_i id hid
    obtain ⟨side, present, rfl⟩ := finds _ _ hid
    have absent : ¬((r.rows.get i).partner side.other).Present :=
      fun other => alone (coupled_of_present present other)
    have retracted : r.Records (fun _ => .none)
        (r.retract (r.rows.get i).key ((r.rows.get i).partner side).id).registry := by
      rw [retract_of_present h present]
      exact (retractSide_records h present).congr fun x => Event.when_of_not fun h => absent h.1
    exact retracted.trans_quiet (ih (h.retract _ _) (retract_not_coupled h present))

/-- At its turn, a row is left by the first partner that is found, and then perhaps by the other one. -/
theorem retractWhile_records (finds : Finds leaving) (first : FindsFirst leaving which) {fuel : Nat}
    (hf : 0 < fuel) (i : RowIndex) (h : r.WellFormed) :
    r.Records (fun x => Event.offerRetracted.when ((r.rows.get i).leftBehind which = some x))
      (retractWhile leaving i fuel r).registry := by
  obtain ⟨fuel, rfl⟩ := Nat.exists_eq_add_one.2 hf
  rw [retractWhile, first _ (h.rows.sound i)]
  cases hs : (r.rows.get i).sideWith which with
  | none =>
    refine .never rfl fun x h => ?_
    rw [Row.leftBehind, hs] at h
    cases h
  | some side =>
    obtain ⟨present, -⟩ := Row.sideWith_eq_some hs
    have retracted : r.Records
        (fun x => Event.offerRetracted.when ((r.rows.get i).leftBehind which = some x))
        (r.retract (r.rows.get i).key ((r.rows.get i).partner side).id).registry := by
      rw [retract_of_present h present]
      refine (retractSide_records h present).congr_when fun x => ?_
      rw [Row.leftBehind, hs, Option.bind_some, Option.ite_none_right_eq_some, Option.some.injEq]
    exact retracted.trans_quiet
      (retractWhile_quiet finds fuel (h.retract _ _) (retract_not_coupled h present))

/-- Going through the table records a retract for every processor that is left behind in some row: on the
way, for those that are left behind in the rows that have had their turn. -/
theorem sweep_records (finds : Finds leaving) (first : FindsFirst leaving which) {fuel : Nat}
    (hf : 0 < fuel) (h : r.WellFormed) :
    r.Records (fun x => Event.offerRetracted.when (r.LeavesBehind which x))
      (sumRows (fun i => retractWhile leaving i fuel) r).registry := by
  let M (rest : List RowIndex) (o : Outcome Nat) : Prop :=
    r.Records (fun x => Event.offerRetracted.when
      (∃ j, j ∉ rest ∧ (r.rows.get j).leftBehind which = some x)) o.registry
  have all : M [] (sumRows (fun i => retractWhile leaving i fuel) r) := by
    refine sweep_induction finds fuel h (.never rfl fun x ⟨j, hj, _⟩ => hj (List.mem_finRange j)) ?_
    intro i rest o hi ho waiting recorded
    have turn := retractWhile_records finds first hf i ho
    rw [waiting] at turn
    refine (recorded.trans turn).congr fun x => Event.when_union_when.trans (Event.when_congr ?_)
    constructor
    · rintro (⟨j, hj, left⟩ | left)
      · exact ⟨j, fun hr => hj (List.mem_cons_of_mem i hr), left⟩
      · exact ⟨i, hi, left⟩
    · rintro ⟨j, hj, left⟩
      by_cases hij : j = i
      · exact .inr (hij ▸ left)
      · exact .inl ⟨j, List.not_mem_cons_of_ne_of_not_mem hij hj, left⟩
  exact all.congr_when fun x => exists_congr fun j => and_iff_right List.not_mem_nil

theorem findsFirst_leavingWithPid (pid : UInt32) : FindsFirst (leavingWithPid pid) (·.pid = pid) :=
  fun _ _ => rfl

theorem findsFirst_sideOf (id : ProcessorId) :
    FindsFirst (fun row => (row.sideOf id).map fun _ => id) (·.id = id) := by
  intro row _
  change (row.sideOf id).map _ = (row.sideOf id).map _
  cases hs : row.sideOf id with
  | none => rfl
  | some side => exact congrArg some (Row.sideOf_eq_some hs).2.symm

theorem findsFirst_leavingDead (alive : UInt32 → Bool) :
    FindsFirst (leavingDead alive) (!alive ·.pid) := by
  intro row sound
  simp only [leavingDead]
  split
  · rename_i free
    cases hs : row.sideWith (!alive ·.pid) with
    | none => rfl
    | some side => exact absurd free (sound.not_free_of_present (Row.sideWith_eq_some hs).1)
  · rfl

end Sweep

end Registry

end SharedVariables
