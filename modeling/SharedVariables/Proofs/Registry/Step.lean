import SharedVariables.Proofs.Registry.Changes
import SharedVariables.Registry.Access
import SharedVariables.Registry.Directory

/-!
# What an operation does, step by step

Every operation on a registry is a sequence of changes to one row (`RowStep`) and of changes to one
slot (`SlotStep`). A step says on whose behalf it is done: an offer, its acceptance, an access and a
retract concern the partner that makes them, while events are marked and forgotten for anybody.
`Registry.Evolves` joins the two; there is one theorem for each operation, named after it. What the
steps keep, all operations keep, so an invariant needs a case for each step and none for an
operation.
-/

namespace SharedVariables

open Relation

/-- A change to one row, done for a processor that satisfies `who`. -/
inductive RowStep (who : ProcessorId → Prop) (rows : Vector Row rowCapacity) :
    Vector Row rowCapacity → Prop
  | mark (i : RowIndex) (side : Side) (present : ((rows.get i).partner side).Present) :
    RowStep who rows (put rows i ((rows.get i).markEvent side))
  | unmark (i : RowIndex) (id : ProcessorId) :
    RowStep who rows (put rows i ((rows.get i).clearEvent id))
  | restrict (i : RowIndex) (side : Side) (control : Control)
      (present : ((rows.get i).partner side).Present) (acts : who ((rows.get i).partner side).id) :
    RowStep who rows (put rows i ((rows.get i).withControl side control))
  /-- A partner uses the variable or sets it. -/
  | access (i : RowIndex) (side : Side) (state : AccessState)
      (present : ((rows.get i).partner side).Present) (acts : who ((rows.get i).partner side).id)
      (reached : state = .idle ∨ state = Registry.stateSetBy side) :
    RowStep who rows (put rows i ((rows.get i).withState state))
  | accept (i : RowIndex) (name : Name) (addressee : ProcessorId) (p : Partner)
      (present : p.Present) (acts : who p.id)
      (completed : (rows.get i).isCompletedBy name addressee p.id = true) :
    RowStep who rows (put rows i ((rows.get i).accept name p))
  | offer (i : RowIndex) (key : Key) (name : Name) (addressee : ProcessorId) (p : Partner)
      (told : Bool) (free : (rows.get i).Free) (present : p.Present) (acts : who p.id)
      (names : ¬key.IsNone) (fresh : ∀ j : RowIndex, (rows.get j).key ≠ key) :
    RowStep who rows (put rows i (.pending key name addressee p told))
  | leave (i : RowIndex) (side : Side) (present : ((rows.get i).partner side).Present)
      (acts : who ((rows.get i).partner side).id) :
    RowStep who rows (put rows i ((rows.get i).leave side))

/-- A change to one slot, done for a processor that satisfies `who`. -/
inductive SlotStep (who : ProcessorId → Prop) (slots : Vector Slot slotCapacity) :
    Vector Slot slotCapacity → Prop
  | record (i : SlotIndex) (event : Event) (used : (slots.get i).Used) :
    SlotStep who slots (put slots i ((slots.get i).addEvent event))
  | forget (i : SlotIndex) (used : (slots.get i).Used) :
    SlotStep who slots (put slots i { slots.get i with events := .none })
  | refresh (i : SlotIndex) (pid : UInt32) (port : UInt16) (used : (slots.get i).Used)
      (acts : who (slots.get i).partner.id) (named : pid ≠ 0) :
    SlotStep who slots (put slots i { slots.get i with partner.pid := pid, partner.port := port })
  | enroll (i : SlotIndex) (p : Partner) (unused : ¬(slots.get i).Used) (present : p.Present)
      (acts : who p.id) (new : ∀ j : SlotIndex, ¬(slots.get j).Holds p.id) :
    SlotStep who slots (put slots i ⟨p, .none⟩)
  | vacate (i : SlotIndex) (acts : who (slots.get i).partner.id) :
    SlotStep who slots (put slots i .empty)

theorem RowStep.mono {who who' : ProcessorId → Prop} (h : ∀ id, who id → who' id)
    {rows rows' : Vector Row rowCapacity} (s : RowStep who rows rows') :
    RowStep who' rows rows' := by
  cases s with
  | mark i side present => exact .mark i side present
  | unmark i id => exact .unmark i id
  | restrict i side control present acts => exact .restrict i side control present (h _ acts)
  | access i side state present acts reached =>
    exact .access i side state present (h _ acts) reached
  | accept i name addressee p present acts completed =>
    exact .accept i name addressee p present (h _ acts) completed
  | offer i key name addressee p told free present acts names fresh =>
    exact .offer i key name addressee p told free present (h _ acts) names fresh
  | leave i side present acts => exact .leave i side present (h _ acts)

theorem SlotStep.mono {who who' : ProcessorId → Prop} (h : ∀ id, who id → who' id)
    {slots slots' : Vector Slot slotCapacity} (s : SlotStep who slots slots') :
    SlotStep who' slots slots' := by
  cases s with
  | record i event used => exact .record i event used
  | forget i used => exact .forget i used
  | refresh i pid port used acts named => exact .refresh i pid port used (h _ acts) named
  | enroll i p unused present acts new => exact .enroll i p unused present (h _ acts) new
  | vacate i acts => exact .vacate i (h _ acts)

namespace Registry

/-- One registry comes from another by row steps for processors that satisfy `shares` and slot steps
for processors that satisfy `enrolls`. -/
structure Evolves (shares enrolls : ProcessorId → Prop) (r r' : Registry) : Prop where
  rows : ReflTransGen (RowStep shares) r.rows r'.rows
  slots : ReflTransGen (SlotStep enrolls) r.slots r'.slots

namespace Evolves

variable {shares shares' enrolls enrolls' : ProcessorId → Prop} {r r' r'' : Registry}

theorem refl (r : Registry) : Evolves shares enrolls r r := ⟨.refl, .refl⟩

theorem trans (h : Evolves shares enrolls r r') (h' : Evolves shares enrolls r' r'') :
    Evolves shares enrolls r r'' := ⟨h.rows.trans h'.rows, h.slots.trans h'.slots⟩

theorem mono (hs : ∀ id, shares id → shares' id) (he : ∀ id, enrolls id → enrolls' id)
    (h : Evolves shares enrolls r r') : Evolves shares' enrolls' r r' :=
  ⟨ReflTransGen.mono (fun _ _ => RowStep.mono hs) _ _ h.rows,
    ReflTransGen.mono (fun _ _ => SlotStep.mono he) _ _ h.slots⟩

theorem modifyRow {i : RowIndex} {f : Row → Row}
    (h : RowStep shares r.rows (put r.rows i (f (r.rows.get i)))) :
    Evolves shares enrolls r (r.modifyRow i f) := ⟨.single h, .refl⟩

theorem modifySlot {i : SlotIndex} {f : Slot → Slot}
    (h : SlotStep enrolls r.slots (put r.slots i (f (r.slots.get i)))) :
    Evolves shares enrolls r (r.modifySlot i f) := ⟨.refl, .single h⟩

end Evolves

variable {shares enrolls : ProcessorId → Prop} (r : Registry)

/-! ## Events -/

theorem addToSlot_evolves (id : ProcessorId) (event : Event) :
    Evolves shares enrolls r (r.addToSlot id event) := by
  simp only [addToSlot]
  split
  · rename_i i hi
    exact .modifySlot (.record i event (findSlot_eq_some hi).1)
  · exact .refl r

theorem fireEvent_evolves (i : RowIndex) (side : Side) (event : Event) :
    Evolves shares enrolls r (r.fireEvent i side event).registry := by
  simp only [fireEvent]
  split
  · rename_i hp
    exact (Evolves.modifyRow (.mark i side hp)).trans (addToSlot_evolves _ _ _)
  · exact .refl r

theorem addEvent_evolves (event : Event) (id : ProcessorId) (key : Key) :
    Evolves shares enrolls r (r.addEvent event id key).registry := by
  simp only [addEvent]
  split
  · exact fireEvent_evolves r _ _ _
  · exact addToSlot_evolves r _ _

theorem emptySlotEvents_evolves (id : ProcessorId) :
    Evolves shares enrolls r (r.emptySlotEvents id) := by
  simp only [emptySlotEvents]
  split
  · rename_i i hi
    exact .modifySlot (.forget i (findSlot_eq_some hi).1)
  · exact .refl r

theorem clearAllEvents_evolves (id : ProcessorId) :
    Evolves shares enrolls r (r.clearAllEvents id).registry := by
  refine (emptySlotEvents_evolves r id).trans ⟨steps_map fun rows i _ => ?_, .refl⟩
  split
  · rw [put_get]
  · exact .single (.unmark i id)

theorem clearEvent_evolves (key : Key) (id : ProcessorId) :
    Evolves shares enrolls r (r.clearEvent key id).registry := by
  have rest (r' : Registry) (h : Evolves shares enrolls r r') :
      Evolves shares enrolls r
        (if (r'.firstMarked id).IsNone then r'.emptySlotEvents id else r') := by
    split
    · exact h.trans (emptySlotEvents_evolves _ id)
    · exact h
  cases hv : r.findVar key with
  | none => simpa only [clearEvent, hv] using rest r (.refl r)
  | some i => simpa only [clearEvent, hv] using rest _ (.modifyRow (.unmark i id))

/-! ## Accesses -/

theorem callerRow_eq_some {r : Registry} {key : Key} {id : ProcessorId} {i : RowIndex} {side : Side}
    (h : r.callerRow key id = some (i, side)) :
    r.findVar key = some i ∧ (r.rows.get i).sideOf id = some side := by
  simp only [callerRow, Option.bind_eq_bind, Option.bind_eq_some_iff, Option.pure_def,
    Option.some.injEq, Prod.mk.injEq] at h
  obtain ⟨j, hj, s, hs, rfl, rfl⟩ := h
  exact ⟨hj, hs⟩

theorem callerRow_eq_bind (r : Registry) (key : Key) (id : ProcessorId) :
    r.callerRow key id = (r.findVar key).bind fun i => ((r.rows.get i).sideOf id).map (i, ·) := by
  simp only [callerRow, Option.bind_eq_bind, Option.pure_def, Option.map_eq_bind]
  rfl

/-- An event for a partner is marked on its side. -/
theorem addEvent_of_callerRow {r : Registry} {key : Key} {id : ProcessorId} {i : RowIndex} {side : Side}
    (hc : r.callerRow key id = some (i, side)) (event : Event) :
    r.addEvent event id key = r.fireEvent i side event := by
  rw [callerRow_eq_bind] at hc
  simp only [addEvent, hc]

theorem addEvent_of_stranger {r : Registry} {key : Key} {id : ProcessorId}
    (hc : r.callerRow key id = none) (event : Event) :
    r.addEvent event id key =
      ⟨(), r.addToSlot id event, notify (r.udpPort id) (.newEvent event) key⟩ := by
  rw [callerRow_eq_bind] at hc
  simp only [addEvent, hc]

/-- Rows that differ in flags and access states have their partners in the same places. -/
theorem callerRow_of_bare {r r' : Registry}
    (h : ∀ i : RowIndex, (r'.rows.get i).bare = (r.rows.get i).bare) (key : Key) (id : ProcessorId) :
    r'.callerRow key id = r.callerRow key id := by
  have found : r'.findVar key = r.findVar key :=
    findVar_congr fun i => by rw [Row.key_of_bare (h i)]
  simp only [callerRow, found, Row.sideOf_of_bare (h _)]

theorem setState_evolves (key : Key) (id : ProcessorId) (used : Bool) :
    Evolves (· = id) enrolls r (r.setState key id used).registry := by
  simp only [setState]
  split
  · exact .refl r
  rename_i i side hc
  obtain ⟨hp, hi⟩ := Row.sideOf_eq_some (callerRow_eq_some hc).2
  have access (state : AccessState) (hs : state = .idle ∨ state = stateSetBy side) :
      Evolves (· = id) enrolls r (r.modifyRow i (·.withState state)) :=
    .modifyRow (.access i side state hp hi hs)
  split
  · split
    · exact .refl r
    split
    · exact (access _ (.inl rfl)).trans (fireEvent_evolves ..)
    · exact access _ (.inl rfl)
  · split
    · exact (access _ (.inr rfl)).trans (fireEvent_evolves ..)
    · exact access _ (.inr rfl)

theorem mayAccess_evolves (key : Key) (id : ProcessorId) (attempt : Int32) (byMe : Control)
    (failed : Event) :
    Evolves shares enrolls r (r.mayAccess key id attempt byMe failed).registry := by
  simp only [mayAccess]
  split
  · exact .refl r
  split
  · exact .refl r
  split
  · exact fireEvent_evolves ..
  · exact .refl r

theorem setControl_evolves (key : Key) (id : ProcessorId) (control : Control) :
    Evolves (· = id) enrolls r (r.setControl key id control).registry := by
  simp only [setControl]
  split
  · exact .refl r
  rename_i i side hc
  obtain ⟨hp, hi⟩ := Row.sideOf_eq_some (callerRow_eq_some hc).2
  have restricted : Evolves (· = id) enrolls r (r.modifyRow i (·.withControl side control)) :=
    .modifyRow (.restrict i side control hp hi)
  split
  · exact restricted.trans (fireEvent_evolves ..)
  · exact restricted

/-! ## Offers -/

theorem matchPendingOffer_evolves (name : Name) (addressee : ProcessorId) {p : Partner}
    (hp : p.Present) :
    Evolves (· = p.id) enrolls r (r.matchPendingOffer name addressee p).registry := by
  simp only [matchPendingOffer]
  split
  · exact .refl r
  rename_i i hi
  refine (Evolves.modifyRow ?_).trans (fireEvent_evolves ..)
  exact .accept i name addressee p hp rfl (first?_eq_some_iff.1 hi).1

theorem createOffer_evolves (name : Name) (addressee : ProcessorId) (p : Partner) :
    Evolves (· = p.id) enrolls r (r.createOffer name addressee p).registry := by
  by_cases hp : p.Present
  · cases hi : first? r.rows (fun row => row.Free) with
    | none => rw [createOffer_of_full name addressee hp hi]; exact .refl r
    | some i =>
      have free : (r.rows.get i).Free := by simpa using (first?_eq_some_iff.1 hi).1
      obtain ⟨key, told, hu, -, hslots, hrows⟩ := createOffer_of_free name addressee hp hi
      refine ⟨?_, by rw [hslots]⟩
      rw [hrows]
      exact .single (.offer i key name addressee p told free hp rfl hu.1 hu.key_ne)
  · rw [createOffer_of_absent name addressee hp]
    exact .refl r

theorem matchOrMake_evolves (name : Name) (addressee : ProcessorId) (p : Partner) :
    Evolves (· = p.id) enrolls r (r.matchOrMake name addressee p).registry := by
  simp only [matchOrMake]
  split
  · rename_i hp
    refine (matchPendingOffer_evolves r name addressee hp).trans ?_
    simp only [Outcome.andThen]
    split
    · exact .refl _
    · exact createOffer_evolves _ name addressee p
  · exact .refl r

/-! ## Retracts -/

theorem retractSide_evolves {i : RowIndex} {side : Side}
    (hp : ((r.rows.get i).partner side).Present) (hs : shares ((r.rows.get i).partner side).id) :
    Evolves shares enrolls r (r.retractSide i side).registry := by
  have left : Evolves shares enrolls r (r.modifyRow i (·.leave side)) :=
    .modifyRow (.leave i side hp hs)
  simp only [retractSide]
  split
  · exact left
  · exact left.trans (fireEvent_evolves ..)

theorem retract_evolves (key : Key) (id : ProcessorId) :
    Evolves (· = id) enrolls r (r.retract key id).registry := by
  simp only [retract]
  split
  · exact .refl r
  split
  · exact .refl r
  rename_i i _ _ side hs
  obtain ⟨hp, hi⟩ := Row.sideOf_eq_some hs
  exact retractSide_evolves r hp hi

/-! ## Registrations -/

theorem registerProcessor_evolves (id : ProcessorId) (pid : UInt32) (port : UInt16) :
    Evolves shares (· = id) r (r.registerProcessor id pid port).registry := by
  simp only [registerProcessor]
  split
  · rename_i hp
    split
    · rename_i i hi
      obtain ⟨used, hid⟩ := findSlot_eq_some hi
      dsimp only
      refine Evolves.modifySlot ?_
      exact .refresh i pid port used hid hp.1
    rename_i new
    split
    · rename_i i hi
      have unused : ¬(r.slots.get i).Used := by simpa using (first?_eq_some_iff.1 hi).1
      dsimp only
      refine Evolves.modifySlot ?_
      exact .enroll i (.ofProcess id pid port) unused hp rfl (findSlot_eq_none_iff.1 new)
    · exact .refl r
  · exact .refl r

/-- A registration that is refused leaves the registry as it is. -/
theorem registerProcessor_of_refused {r : Registry} {id : ProcessorId} {pid : UInt32}
    {port : UInt16} (h : (r.registerProcessor id pid port).value = false) :
    (r.registerProcessor id pid port).registry = r := by
  revert h
  simp only [registerProcessor]
  split
  · split
    · intro h; cases h
    · split
      · intro h; cases h
      · exact fun _ => rfl
  · exact fun _ => rfl

theorem unregisterProcessor_evolves (id : ProcessorId) :
    Evolves shares (· = id) r (r.unregisterProcessor id).registry := by
  simp only [unregisterProcessor]
  split
  · rename_i i hi
    dsimp only
    refine Evolves.modifySlot ?_
    exact .vacate i (findSlot_eq_some hi).2
  · exact .refl r

/-- Whether a processor is registered for a process that satisfies `which`. -/
def HoldsSlot (r : Registry) (which : UInt32 → Bool) (id : ProcessorId) : Prop :=
  ∃ i : SlotIndex, (r.slots.get i).Holds id ∧ which (r.slots.get i).partner.pid = true

theorem unregisterWhere_evolves (which : UInt32 → Bool) :
    Evolves shares (r.HoldsSlot which) r (r.unregisterWhere (which ·.pid)).registry := by
  refine ⟨.refl, steps_map fun slots i hi => ?_⟩
  split
  · rename_i gone
    simp only [hi, Bool.and_eq_true, decide_eq_true_eq] at gone
    exact .single (.vacate i ⟨i, ⟨gone.1, by rw [hi]⟩, gone.2⟩)
  · rw [put_get]

end Registry

end SharedVariables
