import SharedVariables.Proofs.Registry.Leaving
import SharedVariables.Proofs.Registry.Sparing

/-!
# Who is told of a retract

A partner that remains of two when the other one leaves is told: an event is marked on its side and
recorded in its slot, and notifications go to its ports (`Registry.Told`). When a processor leaves all
its variables at once, this holds of its partner in each of them (`leave_told`): the retract of one row
tells the partner there (`retractSide_told`), and the retracts before and after it only add events
(`Registry.Grows`).
-/

namespace SharedVariables

/-! ## Events that stay -/

theorem Event.contains_union {a b event : Event} (h : a.contains event = true) :
    (a.union b).contains event = true := by
  simp only [contains, union, Bool.and_eq_true, beq_iff_eq] at h ⊢
  refine ⟨h.1, ?_⟩
  have bits := UInt32.toBitVec_inj.2 h.2
  rw [← UInt32.toBitVec_inj]
  simp only [UInt32.toBitVec_and, UInt32.toBitVec_or] at bits ⊢
  ext i hi
  have := congrArg (·.getLsbD i) bits
  grind

theorem Event.union_contains (a : Event) {event : Event} (h : event.isEmpty = false) :
    (a.union event).contains event = true := by
  simp only [contains, union, Bool.and_eq_true, beq_iff_eq, h]
  refine ⟨rfl, ?_⟩
  rw [← UInt32.toBitVec_inj]
  simp only [UInt32.toBitVec_and, UInt32.toBitVec_or]
  ext i hi
  grind

namespace Registry

variable {r r' r'' : Registry} {id : ProcessorId} {i : RowIndex} {side : Side}

/-- Slots keep their processors, and events are only added to them. -/
def Grows (r r' : Registry) : Prop :=
  ∀ j : SlotIndex, (r'.slots.get j).partner = (r.slots.get j).partner ∧
    ∀ event, (r.slots.get j).events.contains event = true →
      (r'.slots.get j).events.contains event = true

theorem Grows.refl (r : Registry) : r.Grows r := fun _ => ⟨rfl, fun _ h => h⟩

theorem Grows.trans (h : r.Grows r') (h' : r'.Grows r'') : r.Grows r'' := fun j =>
  ⟨(h' j).1.trans (h j).1, fun event he => (h' j).2 event ((h j).2 event he)⟩

theorem Grows.of_slots (h : r'.slots = r.slots) : r.Grows r' := fun j =>
  ⟨by rw [h], fun event he => by rwa [h]⟩

theorem addToSlot_grows (id : ProcessorId) (event : Event) : r.Grows (r.addToSlot id event) := by
  simp only [addToSlot]
  split
  · intro j
    simp only [modifySlot]
    rw [get_put]
    split
    · rename_i k _ hkj
      subst hkj
      exact ⟨rfl, fun _ he => Event.contains_union he⟩
    · exact ⟨rfl, fun _ he => he⟩
  · exact .refl r

theorem fireEvent_grows (i : RowIndex) (side : Side) (event : Event) :
    r.Grows (r.fireEvent i side event).registry := by
  simp only [fireEvent]
  split
  · exact addToSlot_grows _ event
  · exact .refl r

theorem retractSide_grows (i : RowIndex) (side : Side) :
    r.Grows (r.retractSide i side).registry := by
  simp only [retractSide]
  split
  · exact .of_slots rfl
  · have left : r.Grows (r.modifyRow i (·.leave side)) := .of_slots rfl
    exact left.trans (fireEvent_grows _ _ _)

theorem retract_grows (key : Key) (id : ProcessorId) : r.Grows (r.retract key id).registry := by
  simp only [retract]
  split
  · exact .refl r
  split
  · exact .refl r
  · exact retractSide_grows _ _

/-- Where a processor is registered, and at which port, depends on who holds the slots. -/
theorem Grows.findSlot (h : r.Grows r') (id : ProcessorId) : r'.findSlot id = r.findSlot id := by
  have holds (j : SlotIndex) : (r'.slots.get j).Holds id ↔ (r.slots.get j).Holds id := by
    simp only [Slot.Holds, Slot.Used, (h j).1]
  cases hi : r.findSlot id with
  | none =>
    rw [findSlot_eq_none_iff] at hi ⊢
    exact fun j hj => hi j ((holds j).1 hj)
  | some i =>
    rw [Registry.findSlot, first?_eq_some_iff] at hi ⊢
    simpa only [holds] using hi

theorem Grows.udpPort (h : r.Grows r') (id : ProcessorId) : r'.udpPort id = r.udpPort id := by
  simp only [Registry.udpPort, getSlot, h.findSlot id]
  cases r.findSlot id with
  | none => rfl
  | some i => simp only [Option.map_some, (h i).1]

theorem Grows.noticePort (h : r.Grows r') (p : Partner) : r'.noticePort p = r.noticePort p := by
  simp only [Registry.noticePort, h.udpPort]

/-! ## Being told -/

/-- What it takes to tell `peer` that its partner has retracted the variable `key`: an event in its
slot, and notifications to the ports that it has. -/
structure Told {α : Type} (r : Registry) (peer : Partner) (key : Key) (o : Outcome α) : Prop where
  recorded : ∀ j : SlotIndex, (r.slots.get j).Holds peer.id →
    (o.registry.slots.get j).events.contains .offerRetracted = true
  announced : r.noticePort peer ≠ 0 →
    ⟨r.noticePort peer, .newEvent .offerRetracted, key⟩ ∈ o.notices
  notified : peer.port ≠ 0 → ⟨peer.port, .retractOffer, key⟩ ∈ o.notices

theorem mem_notify {port : UInt16} (h : port ≠ 0) (kind : NoticeKind) (key : Key) :
    ⟨port, kind, key⟩ ∈ notify port kind key := by
  rw [notify, if_neg h]
  exact List.mem_singleton.2 rfl

/-- An event for a processor that is registered gets into its slot. -/
theorem addToSlot_events (h : SlotsSound r.slots) {j : SlotIndex} (hj : (r.slots.get j).Holds id)
    (event : Event) :
    ((r.addToSlot id event).slots.get j).events = (r.slots.get j).events.union event := by
  simp only [addToSlot, findSlot_of_holds h hj, modifySlot]
  rw [get_put, if_pos rfl]
  rfl

/-- A retract tells the partner that remains. -/
theorem retractSide_told (h : r.WellFormed) (hc : (r.rows.get i).coupling = .coupled)
    (side : Side) :
    r.Told ((r.rows.get i).partner side.other) (r.rows.get i).key (r.retractSide i side) := by
  obtain ⟨ho, ha⟩ := Row.coupling_eq_coupled_iff.1 hc
  generalize hpeer : (r.rows.get i).partner side.other = peer
  have present : peer.Present := by
    rw [← hpeer]
    cases side <;> assumption
  have left := Row.leave_of_coupled hc side
  rw [hpeer] at left
  have changed : (r.modifyRow i (·.leave side)).rows.get i = (r.rows.get i).leave side :=
    modifyRow_self ..
  have used : ¬((r.rows.get i).leave side).Free := by
    rw [left]
    exact (h.rows.sound i).not_free_of_coupling (hc.trans_ne nofun)
  have fired : (r.modifyRow i (·.leave side)).fireEvent i .offering .offerRetracted =
      ⟨(), ((r.modifyRow i (·.leave side)).modifyRow i (·.markEvent .offering)).addToSlot peer.id
          .offerRetracted,
        notify (r.noticePort peer) (.newEvent .offerRetracted) (r.rows.get i).key⟩ := by
    simp only [fireEvent, changed, left, Row.partner, present, ↓reduceIte]
    rfl
  simp only [retractSide, changed, used, ↓reduceIte, fired]
  refine ⟨fun j hj => ?_, fun hp => ?_, fun hp => ?_⟩
  · let marked := (r.modifyRow i (·.leave side)).modifyRow i (·.markEvent .offering)
    have recorded := addToSlot_events (r := marked) h.slots hj .offerRetracted
    dsimp only
    rw [recorded]
    exact Event.union_contains _ rfl
  · exact List.mem_append_left _ (mem_notify hp _ _)
  · refine List.mem_append_right _ ?_
    cases side with
    | offering =>
      refine List.mem_append_right _ ?_
      rw [retractPort, if_pos ha, show (r.rows.get i).accepting = peer from hpeer]
      exact mem_notify hp _ _
    | accepting =>
      refine List.mem_append_left _ ?_
      rw [retractPort, if_pos ho, show (r.rows.get i).offering = peer from hpeer]
      exact mem_notify hp _ _

/-! ## Leaving -/

/-- Going through the table comes to every row while it is as it was, leaves it as it is after its turn,
and what is told there stays told. -/
theorem sumRows_at {P : Registry → Prop} {step : RowIndex → Registry → Outcome Nat}
    (inv : ∀ i r, P r → P (step i r).registry)
    (grows : ∀ i r, P r → r.Grows (step i r).registry)
    (frame : ∀ i j r, P r → i ≠ j → (step i r).registry.rows.get j = r.rows.get j) (hr : P r)
    (j : RowIndex) :
    ∃ r', P r' ∧ r.Grows r' ∧ r'.rows.get j = r.rows.get j ∧
      (step j r').registry.Grows (sumRows step r).registry ∧
      (sumRows step r).registry.rows.get j = (step j r').registry.rows.get j ∧
      ∀ notice ∈ (step j r').notices, notice ∈ (sumRows step r).notices := by
  let M (rest : List RowIndex) (o : Outcome Nat) : Prop := P o.registry ∧
    (j ∈ rest → r.Grows o.registry ∧ o.registry.rows.get j = r.rows.get j) ∧
      (j ∉ rest → ∃ r', P r' ∧ r.Grows r' ∧ r'.rows.get j = r.rows.get j ∧
        (step j r').registry.Grows o.registry ∧
        o.registry.rows.get j = (step j r').registry.rows.get j ∧
        ∀ notice ∈ (step j r').notices, notice ∈ o.notices)
  have all : M [] (sumRows step r) := by
    refine sumRows_induction ⟨hr, fun _ => ⟨.refl r, rfl⟩, fun hj => absurd (List.mem_finRange j) hj⟩ ?_
    intro i rest o hi ⟨ho, before, after⟩
    have same (hij : i ≠ j) := frame i j o.registry ho hij
    refine ⟨inv i _ ho, fun hj => ?_, fun hj => ?_⟩
    · obtain ⟨hgrows, hrow⟩ := before (List.mem_cons_of_mem i hj)
      exact ⟨hgrows.trans (grows i _ ho), (same fun hij => hi (hij ▸ hj)).trans hrow⟩
    · by_cases hij : i = j
      · subst hij
        obtain ⟨hgrows, hrow⟩ := before List.mem_cons_self
        exact ⟨o.registry, ho, hgrows, hrow, .refl _, rfl, fun _ hn => List.mem_append_right _ hn⟩
      · obtain ⟨r', h', hgrows, hrow, hgrows', hrow', hnotices⟩ :=
          after (List.not_mem_cons_of_ne_of_not_mem (Ne.symm hij) hj)
        exact ⟨r', h', hgrows, hrow, hgrows'.trans (grows i _ ho), (same hij).trans hrow',
          fun notice hn => List.mem_append_left _ (hnotices notice hn)⟩
  exact all.2.2 List.not_mem_nil

/-- Who leaves tells the partner that it has in any row. The slot that it gives up is not the slot of that
partner. -/
theorem leave_told (h : r.WellFormed) (hs : (r.rows.get i).sideOf id = some side)
    (hc : (r.rows.get i).coupling = .coupled) :
    r.Told ((r.rows.get i).partner side.other) (r.rows.get i).key (r.leave id) := by
  let step (i : RowIndex) : Registry → Outcome Nat :=
    retractWhile (fun row => (row.sideOf id).map fun _ => id) i 1
  have inv (i : RowIndex) (r : Registry) (h : r.WellFormed) : (step i r).registry.WellFormed :=
    h.retractWhile _ i 1
  have grows (i : RowIndex) (r : Registry) (_ : r.WellFormed) : r.Grows (step i r).registry :=
    retractWhile_invariant (fun r' id h _ => h.trans (retract_grows _ id)) 1 (.refl r)
  have frame (i j : RowIndex) (r : Registry) (h : r.WellFormed) (hij : i ≠ j) :
      (step i r).registry.rows.get j = r.rows.get j := by
    rw [retractWhile_rows h, get_put, if_neg hij]
  obtain ⟨r', h', hgrows, hrow, hgrows', -, hnotices⟩ := sumRows_at inv grows frame h i
  have hs' : (r'.rows.get i).sideOf id = some side := by rw [hrow, hs]
  have hc' : (r'.rows.get i).coupling = .coupled := by rw [hrow, hc]
  have used := (h'.rows.sound i).not_free_of_present (Row.sideOf_eq_some hs').1
  have turn : step i r' = (r'.retractSide i side).map fun _ => 1 := by
    simp only [step, retractWhile, hs', Option.map_some, Outcome.andThen, Outcome.map, unchanged,
      retract_eq_retractSide (h'.findVar_key used) hs', List.append_nil, Nat.zero_add]
  have told := retractSide_told h' hc' side
  rw [hrow] at told
  have other : ((r.rows.get i).partner side.other).id ≠ id := by
    rcases (h.rows.sound i).leave_cases hs with ⟨ho, -⟩ | ⟨-, hne, -⟩
    · rw [ho] at hc
      cases hc
    · exact hne
  have notices (notice : Notice) (hn : notice ∈ (r'.retractSide i side).notices) :
      notice ∈ (r.leave id).notices := by
    refine List.mem_append_left _ (hnotices notice ?_)
    rw [turn]
    exact hn
  rw [turn] at hgrows'
  have later := (retractSide_grows i side).trans hgrows'
  have all : (r.retractAllBy id).registry = (sumRows step r).registry := rfl
  refine ⟨fun j hj => ?_, fun hp => ?_, fun hp => notices _ (told.notified hp)⟩
  · have hj' : (r'.slots.get j).Holds ((r.rows.get i).partner side.other).id := by
      rwa [Slot.Holds, Slot.Used, (hgrows j).1]
    have recorded := (hgrows' j).2 _ (told.recorded j hj')
    have kept : ¬((r.retractAllBy id).registry.slots.get j).Holds id := by
      rw [Slot.Holds, all, (later j).1]
      exact fun hid => other (hj'.2.symm.trans hid.2)
    rw [leave_registry, unregisterProcessor_slot id j kept, all]
    exact recorded
  · rw [← hgrows.noticePort] at hp ⊢
    exact notices _ (told.announced hp)

end Registry

end SharedVariables
