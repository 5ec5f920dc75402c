import SharedVariables.Proofs.Registry.Step
import SharedVariables.Store

/-!
# What an operation leaves alone

An access, a control change and a retract by a processor leave every row alone that the processor is
no side of, and every registration (`Registry.Spares`). The operations that reach further do so in one
way each: an event marks the row of its key (`addEvent_row`), forgetting events unmarks rows
(`clearAllEvents_row`), and sharing completes an offer or fills a free row (`share_row`).
Registrations are made, changed and removed under one identity (`registerProcessor_slot`,
`unregisterProcessor_slot`).
-/

namespace SharedVariables

open Relation

theorem partner_put (slots : Vector Slot slotCapacity) (i j : SlotIndex) (slot : Slot)
    (h : slot.partner = (slots.get i).partner) :
    ((put slots i slot).get j).partner = (slots.get j).partner := by
  rw [get_put]
  split
  · rename_i hij
    rw [h, hij]
  · rfl

theorem SlotStep.partner {slots slots' : Vector Slot slotCapacity}
    (h : SlotStep (fun _ => False) slots slots') (j : SlotIndex) :
    (slots'.get j).partner = (slots.get j).partner := by
  cases h with
  | record i event used => exact partner_put slots i j _ rfl
  | forget i used => exact partner_put slots i j _ rfl
  | refresh i pid port used acts named => exact acts.elim
  | enroll i p unused present acts new => exact acts.elim
  | vacate i acts => exact acts.elim

namespace Registry

variable {r r' : Registry} {id : ProcessorId}

/-- Who is registered where does not depend on what is shared. -/
theorem Evolves.partner {shares : ProcessorId → Prop} (h : r.Evolves shares (fun _ => False) r')
    (j : SlotIndex) : (r'.slots.get j).partner = (r.slots.get j).partner := by
  obtain ⟨-, slots⟩ := h
  generalize r'.slots = slots' at slots ⊢
  induction slots with
  | refl => rfl
  | tail _ step ih => exact (step.partner j).trans ih

/-- What an operation by the processor `id` leaves alone: rows that it is no side of, and who is
registered where. -/
structure Spares (r : Registry) (id : ProcessorId) (r' : Registry) : Prop where
  rows : ∀ i : RowIndex, (r.rows.get i).sideOf id = none → r'.rows.get i = r.rows.get i
  slots : ∀ i : SlotIndex, (r'.slots.get i).partner = (r.slots.get i).partner

theorem Spares.refl (r : Registry) : r.Spares id r := ⟨fun _ _ => rfl, fun _ => rfl⟩

theorem modifyRow_row {i j : RowIndex} (h : j ≠ i) (f : Row → Row) :
    (r.modifyRow i f).rows.get j = r.rows.get j := by
  simp only [modifyRow]
  rw [get_put, if_neg h.symm]

/-- A change to the slot of a processor leaves the slots alone that do not hold it. -/
theorem modifySlot_slot {i j : SlotIndex} (hi : r.findSlot id = some i)
    (hj : ¬(r.slots.get j).Holds id) (f : Slot → Slot) :
    (r.modifySlot i f).slots.get j = r.slots.get j := by
  have hne : i ≠ j := by
    rintro rfl
    exact hj (findSlot_eq_some hi)
  simp only [modifySlot]
  rw [get_put, if_neg hne]

theorem fireEvent_row {i j : RowIndex} (h : j ≠ i) (side : Side) (event : Event) :
    (r.fireEvent i side event).registry.rows.get j = r.rows.get j := by
  rw [fireEvent_rows]
  split
  · rw [get_put, if_neg h.symm]
  · rfl

theorem ne_of_callerRow {key : Key} {i j : RowIndex} {side : Side}
    (h : r.callerRow key id = some (i, side)) (hj : (r.rows.get j).sideOf id = none) : j ≠ i := by
  rintro rfl
  rw [(callerRow_eq_some h).2] at hj
  cases hj

/-! ## Operations on one's own rows -/

theorem setState_spares (key : Key) (used : Bool) :
    r.Spares id (r.setState key id used).registry where
  rows j hj := by
    simp only [setState]
    split
    · rfl
    rename_i i side hc
    have hne := ne_of_callerRow hc hj
    have told (f : Row → Row) (event : Event) :
        ((r.modifyRow i f).fireEvent i side.other event).registry.rows.get j = r.rows.get j :=
      (fireEvent_row hne ..).trans (modifyRow_row hne f)
    split
    · split
      · rfl
      split
      · exact told ..
      · exact modifyRow_row hne _
    · split
      · exact told ..
      · exact modifyRow_row hne _
  slots := (setState_evolves r key id used).partner

theorem mayAccess_spares (key : Key) (attempt : Int32) (byMe : Control) (failed : Event) :
    r.Spares id (r.mayAccess key id attempt byMe failed).registry where
  rows j hj := by
    simp only [mayAccess]
    split
    · rfl
    rename_i i side hc
    split
    · rfl
    split
    · exact fireEvent_row (ne_of_callerRow hc hj) ..
    · rfl
  slots := by
    have evolves : r.Evolves (· = id) (fun _ => False)
        (r.mayAccess key id attempt byMe failed).registry := mayAccess_evolves ..
    exact evolves.partner

theorem setControl_spares (key : Key) (control : Control) :
    r.Spares id (r.setControl key id control).registry where
  rows j hj := by
    simp only [setControl]
    split
    · rfl
    rename_i i side hc
    have hne := ne_of_callerRow hc hj
    split
    · exact (fireEvent_row hne ..).trans (modifyRow_row hne _)
    · exact modifyRow_row hne _
  slots := (setControl_evolves r key id control).partner

theorem retract_spares (key : Key) : r.Spares id (r.retract key id).registry where
  rows j hj := by
    rcases retract_rows (r := r) key id with hrows | ⟨i, side, -, hs, hrows⟩
    · rw [hrows]
    · have hne : i ≠ j := by
        rintro rfl
        rw [hs] at hj
        cases hj
      rw [hrows, get_put, if_neg hne]
  slots := (retract_evolves r key id).partner

/-! ## Operations on the rows of others -/

theorem kind_of_mem_notify {port : UInt16} {kind : NoticeKind} {key : Key} {notice : Notice}
    (h : notice ∈ notify port kind key) : notice.kind = kind := by
  rw [notify] at h
  split at h
  · cases h
  · rw [List.mem_singleton.1 h]

theorem addEvent_notices {event : Event} {id : ProcessorId} {key : Key} {notice : Notice}
    (h : notice ∈ (r.addEvent event id key).notices) : notice.kind = .newEvent event := by
  simp only [addEvent, fireEvent] at h
  split at h
  · split at h
    · exact kind_of_mem_notify h
    · cases h
  · exact kind_of_mem_notify h

/-- An event marks at most the side of the processor it is for, in the row of its key. -/
theorem addEvent_row (event : Event) (id : ProcessorId) (key : Key) (i : RowIndex) :
    (r.addEvent event id key).registry.rows.get i = r.rows.get i ∨
      ∃ side, (r.rows.get i).key = key ∧ (r.rows.get i).sideOf id = some side ∧
        (r.addEvent event id key).registry.rows.get i = (r.rows.get i).markEvent side := by
  simp only [addEvent]
  split
  · rename_i j side hc
    obtain ⟨k, hk, hs⟩ := Option.bind_eq_some_iff.1 hc
    obtain ⟨side', hside, heq⟩ := Option.map_eq_some_iff.1 hs
    obtain ⟨rfl, rfl⟩ := Prod.mk.inj heq
    by_cases hij : i = k
    · subst hij
      rw [fireEvent_rows, if_pos (Row.sideOf_eq_some hside).1, get_put, if_pos rfl]
      exact .inr ⟨side', (findVar_eq_some hk).2, hside, rfl⟩
    · exact .inl (fireEvent_row hij ..)
  · exact .inl (by rw [addToSlot_rows])

theorem clearAllEvents_row (id : ProcessorId) (i : RowIndex) :
    (r.clearAllEvents id).registry.rows.get i = r.rows.get i ∨
      (r.clearAllEvents id).registry.rows.get i = (r.rows.get i).clearEvent id := by
  have emptied : (r.emptySlotEvents id).rows = r.rows := by
    simp only [emptySlotEvents]
    split <;> rfl
  simp only [clearAllEvents, get_map, emptied]
  split
  · exact .inl rfl
  · exact .inr rfl

theorem addEvent_slot (event : Event) (id : ProcessorId) (key : Key) (i : SlotIndex) :
    ((r.addEvent event id key).registry.slots.get i).partner = (r.slots.get i).partner := by
  have evolves : r.Evolves (fun _ => False) (fun _ => False) (r.addEvent event id key).registry :=
    addEvent_evolves ..
  exact evolves.partner i

theorem clearAllEvents_slot (id : ProcessorId) (i : SlotIndex) :
    ((r.clearAllEvents id).registry.slots.get i).partner = (r.slots.get i).partner := by
  have evolves : r.Evolves (fun _ => False) (fun _ => False) (r.clearAllEvents id).registry :=
    clearAllEvents_evolves ..
  exact evolves.partner i

/-- A request completes an offer that is made to the requester, or it becomes an offer in a free row,
under a new key. -/
theorem share_row (name : Name) (addressee : ProcessorId) (p : Partner) (i : RowIndex) :
    let row := r.rows.get i
    let row' := (r.share name addressee p).registry.rows.get i
    row' = row ∨
      (row.coupling = .offered ∧ (row.target.IsGeneral ∨ row.target = p.id) ∧
        row' = (row.accept name p).markEvent .offering) ∨
      ∃ key told, row.Free ∧ r.Untaken key ∧ row' = .pending key name addressee p told := by
  intro row row'
  have hrow' : row' = (r.matchOrMake name addressee p).registry.rows.get i := rfl
  by_cases hp : p.Present
  · cases hpending : r.findPending name addressee p.id with
    | some j =>
      rw [(matchOrMake_of_pending hp hpending).2, get_put] at hrow'
      split at hrow'
      · rename_i hj
        subst hj
        obtain ⟨offered, -, meant⟩ := Row.isCompletedBy_iff.1 (first?_eq_some_iff.1 hpending).1
        exact .inr (.inl ⟨offered, Row.canCouple_target meant, hrow'⟩)
      · exact .inl hrow'
    | none =>
      cases hfree : first? r.rows (fun row => row.Free) with
      | some j =>
        obtain ⟨key, told, untaken, -, hrows⟩ := matchOrMake_of_free hp hpending hfree
        rw [hrows, get_put] at hrow'
        split at hrow'
        · rename_i hj
          subst hj
          have free : row.Free := by simpa using (first?_eq_some_iff.1 hfree).1
          exact .inr (.inr ⟨key, told, free, untaken, hrow'⟩)
        · exact .inl hrow'
      | none =>
        simp only [matchOrMake, hp, ↓reduceIte, matchPendingOffer, hpending, Outcome.andThen,
          unchanged, createOffer_of_full name addressee hp hfree] at hrow'
        exact .inl hrow'
  · rw [matchOrMake, if_neg hp] at hrow'
    exact .inl hrow'

theorem share_slot (name : Name) (addressee : ProcessorId) (p : Partner) (i : SlotIndex) :
    ((r.share name addressee p).registry.slots.get i).partner = (r.slots.get i).partner :=
  (matchOrMake_evolves r name addressee p).partner i

/-! ## Registrations -/

/-- A registration changes the process and the port of a processor that is registered already, or it
fills an unused slot. -/
theorem registerProcessor_slot (id : ProcessorId) (pid : UInt32) (port : UInt16) (i : SlotIndex) :
    let slot := r.slots.get i
    let slot' := (r.registerProcessor id pid port).registry.slots.get i
    slot' = slot ∨
      (slot.Holds id ∧ slot' = { slot with partner.pid := pid, partner.port := port }) ∨
      (¬slot.Used ∧ slot' = ⟨.ofProcess id pid port, .none⟩) := by
  intro slot slot'
  have hslot' : slot' = (r.registerProcessor id pid port).registry.slots.get i := rfl
  simp only [registerProcessor] at hslot'
  split at hslot'
  · split at hslot'
    · rename_i j hj
      simp only [modifySlot] at hslot'
      rw [get_put] at hslot'
      split at hslot'
      · rename_i hji
        subst hji
        exact .inr (.inl ⟨findSlot_eq_some hj, hslot'⟩)
      · exact .inl hslot'
    · split at hslot'
      · rename_i j hj
        simp only [modifySlot] at hslot'
        rw [get_put] at hslot'
        split at hslot'
        · rename_i hji
          subst hji
          have unused : ¬slot.Used := by simpa using (first?_eq_some_iff.1 hj).1
          exact .inr (.inr ⟨unused, hslot'⟩)
        · exact .inl hslot'
      · exact .inl hslot'
  · exact .inl hslot'

theorem registerProcessor_notices (id : ProcessorId) (pid : UInt32) (port : UInt16) :
    (r.registerProcessor id pid port).notices = [] := by
  simp only [registerProcessor]
  split
  · split
    · rfl
    · split <;> rfl
  · rfl

theorem registerProcessor_rows (id : ProcessorId) (pid : UInt32) (port : UInt16) :
    (r.registerProcessor id pid port).registry.rows = r.rows := by
  simp only [registerProcessor]
  split
  · split
    · rfl
    · split <;> rfl
  · rfl

theorem unregisterProcessor_slot (id : ProcessorId) (i : SlotIndex) (h : ¬(r.slots.get i).Holds id) :
    (r.unregisterProcessor id).registry.slots.get i = r.slots.get i := by
  simp only [unregisterProcessor]
  split
  · exact modifySlot_slot ‹_› h _
  · rfl

end Registry

end SharedVariables
