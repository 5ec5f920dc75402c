import SharedVariables.Proofs.Registry.Lifecycle
import SharedVariables.Proofs.Registry.Telling

/-!
# Who is told that a variable is shared in another way

When an offer is taken up, or one of two partners leaves, the partner that is on the offering side of the
row afterwards is told (`Outcome.TellsOfferer`). Both are an event that is fired once the row has changed
(`fireEvent_tells`), so a match tells (`matchPendingOffer_tells`) and a retract does
(`retractSide_tells`). The operations that go through the table come to each row once, and what is told
there stays told (`sweep_tells`). Nothing is ever sent to port 0 (`perform_deliverable`).
`partners_are_told` puts this together for all operations.
-/

namespace SharedVariables

theorem Registry.Grows.holds {r r' : Registry} (h : r.Grows r') {j : SlotIndex} {id : ProcessorId} :
    (r'.slots.get j).Holds id ↔ (r.slots.get j).Holds id := by
  rw [Slot.Holds, Slot.Holds, Slot.Used, Slot.Used, (h j).1]

namespace Outcome

variable {α β : Type}

/-- What it takes, once an operation is over, that the partner on the offering side of the row at `i` has
been told: its side is marked, its slot holds the event if it is registered then, the event has been
announced at the port that it has in the row, or at the one that it is registered with if it has none
there, and a notification of the other kind has gone to the port in the row. -/
structure TellsOfferer (o : Outcome α) (i : RowIndex) (event : Event) (kind : NoticeKind) : Prop where
  marked : (o.registry.rows.get i).offering.flags.eventPending = true
  recorded : ∀ j : SlotIndex, (o.registry.slots.get j).Holds (o.registry.rows.get i).offering.id →
    (o.registry.slots.get j).events.contains event = true
  announced : (o.registry.rows.get i).offering.port ≠ 0 →
    ⟨(o.registry.rows.get i).offering.port, .newEvent event, (o.registry.rows.get i).key⟩ ∈ o.notices
  announcedAtSlot : (o.registry.rows.get i).offering.port = 0 → ∀ j : SlotIndex,
    (o.registry.slots.get j).Holds (o.registry.rows.get i).offering.id →
    (o.registry.slots.get j).partner.port ≠ 0 →
    ⟨(o.registry.slots.get j).partner.port, .newEvent event, (o.registry.rows.get i).key⟩ ∈ o.notices
  notified : (o.registry.rows.get i).offering.port ≠ 0 →
    ⟨(o.registry.rows.get i).offering.port, kind, (o.registry.rows.get i).key⟩ ∈ o.notices

/-- Whether all notifications have a port to go to. -/
def Deliverable (o : Outcome α) : Prop := ∀ notice ∈ o.notices, notice.port ≠ 0

/-- What is told stays told while the row is left alone, events are only added and notifications are only
added. -/
theorem TellsOfferer.later {o : Outcome α} {o' : Outcome β} {i : RowIndex} {event : Event}
    {kind : NoticeKind} (h : o.TellsOfferer i event kind) (grows : o.registry.Grows o'.registry)
    (row : o'.registry.rows.get i = o.registry.rows.get i)
    (notices : ∀ notice ∈ o.notices, notice ∈ o'.notices) : o'.TellsOfferer i event kind where
  marked := by rw [row]; exact h.marked
  recorded j hj := by
    rw [row] at hj
    exact (grows j).2 event (h.recorded j (grows.holds.1 hj))
  announced := by
    rw [row]
    exact fun hp => notices _ (h.announced hp)
  announcedAtSlot := by
    rw [row]
    intro hp j hj
    rw [(grows j).1]
    exact fun hport => notices _ (h.announcedAtSlot hp j (grows.holds.1 hj) hport)
  notified := by
    rw [row]
    exact fun hp => notices _ (h.notified hp)

theorem TellsOfferer.map {o : Outcome α} {i : RowIndex} {event : Event} {kind : NoticeKind}
    (h : o.TellsOfferer i event kind) (f : α → β) : (o.map f).TellsOfferer i event kind :=
  h.later (.refl _) rfl fun _ hn => hn

theorem Deliverable.map {o : Outcome α} (h : o.Deliverable) (f : α → β) : (o.map f).Deliverable := h

theorem Deliverable.andThen {o : Outcome α} (h : o.Deliverable) {f : α → Registry → Outcome β}
    (hf : (f o.value o.registry).Deliverable) : (o.andThen f).Deliverable := by
  intro notice hn
  rcases List.mem_append.1 hn with first | next
  · exact h notice first
  · exact hf notice next

end Outcome

namespace Registry

variable {r : Registry} {i : RowIndex} {id : ProcessorId} {side : Side}

/-! ## One row -/

/-- A partner without a port in its row is told at the one it is registered with. -/
theorem noticePort_of_holds (slots : SlotsSound r.slots) {p : Partner} (none : p.port = 0)
    {j : SlotIndex} (hj : (r.slots.get j).Holds p.id) :
    r.noticePort p = (r.slots.get j).partner.port := by
  simp only [noticePort, none, udpPort, getSlot, findSlot_of_holds slots hj, Option.map_some,
    ↓reduceIte]

/-- An event that is fired at the offering side of a row tells the partner there, if a notification goes
to its port besides. -/
theorem fireEvent_tells (slots : SlotsSound r.slots) (present : (r.rows.get i).offering.Present)
    {event : Event} (occurs : event.isEmpty = false) (kind : NoticeKind) {α : Type} {o : Outcome α}
    (registry : o.registry = (r.fireEvent i .offering event).registry)
    (fired : ∀ notice ∈ (r.fireEvent i .offering event).notices, notice ∈ o.notices)
    (notified : ∀ notice ∈ notify (r.rows.get i).offering.port kind (r.rows.get i).key,
      notice ∈ o.notices) :
    o.TellsOfferer i event kind := by
  obtain ⟨value, registry', notices⟩ := o
  dsimp only at registry fired notified
  subst registry
  have present' : ((r.rows.get i).partner .offering).Present := present
  have fires : r.fireEvent i .offering event =
      ⟨(), (r.modifyRow i (·.markEvent .offering)).addToSlot (r.rows.get i).offering.id event,
        notify (r.noticePort (r.rows.get i).offering) (.newEvent event) (r.rows.get i).key⟩ := by
    simp only [fireEvent, present', ↓reduceIte]
    rfl
  have row : (r.fireEvent i .offering event).registry.rows.get i =
      (r.rows.get i).markEvent .offering := by
    rw [fireEvent_rows, if_pos present', get_put, if_pos rfl]
  have grows : r.Grows (r.fireEvent i .offering event).registry := fireEvent_grows i .offering event
  have announced {port : UInt16} (hport : r.noticePort (r.rows.get i).offering = port) (hp : port ≠ 0) :
      ⟨port, .newEvent event, (r.rows.get i).key⟩ ∈ notices := by
    apply fired
    rw [fires, hport]
    exact mem_notify hp _ _
  refine ⟨?_, fun j hj => ?_, ?_, ?_, ?_⟩ <;> dsimp only at *
  · rw [row]
    rfl
  · rw [row] at hj
    have held : (r.slots.get j).Holds (r.rows.get i).offering.id := grows.holds.1 hj
    have recorded := addToSlot_events (r := r.modifyRow i (·.markEvent .offering)) slots held event
    rw [fires]
    dsimp only
    rw [recorded]
    exact Event.union_contains _ occurs
  · rw [row]
    exact fun hp => announced (if_neg hp) hp
  · rw [row]
    intro none j hj
    rw [(grows j).1]
    exact announced (noticePort_of_holds slots none (grows.holds.1 hj))
  · rw [row]
    exact fun hp => notified _ (mem_notify hp _ _)

/-- The partner that has made an offer is told when it is taken up. -/
theorem matchPendingOffer_tells (h : r.WellFormed) {name : Name} {addressee : ProcessorId}
    {p : Partner} (hi : r.findPending name addressee p.id = some i) :
    (r.matchPendingOffer name addressee p).TellsOfferer i .offerMatched .offerMatched := by
  obtain ⟨offered, -, -⟩ := Row.isCompletedBy_iff.1 (first?_eq_some_iff.1 hi).1
  have accepted : (r.modifyRow i (·.accept name p)).rows.get i = (r.rows.get i).accept name p :=
    modifyRow_self ..
  have present : ((r.modifyRow i (·.accept name p)).rows.get i).offering.Present := by
    rw [accepted]
    exact (Row.coupling_eq_offered_iff.1 offered).1
  refine fireEvent_tells (r := r.modifyRow i (·.accept name p)) h.slots present rfl .offerMatched
    ?_ ?_ ?_
  · simp only [matchPendingOffer, hi]
  · simp only [matchPendingOffer, hi]
    exact fun notice hn => List.mem_append_left _ hn
  · rw [accepted]
    simp only [matchPendingOffer, hi]
    exact fun notice hn => List.mem_append_right _ hn

/-- The partner that remains of two is told when the other one retracts, at the port that it had on its side
before. -/
theorem retractSide_tells (h : r.WellFormed) (hc : (r.rows.get i).coupling = .coupled)
    (side : Side) :
    (r.retractSide i side).TellsOfferer i .offerRetracted .retractOffer := by
  obtain ⟨ho, ha⟩ := Row.coupling_eq_coupled_iff.1 hc
  have left := Row.leave_of_coupled hc side
  have changed : (r.modifyRow i (·.leave side)).rows.get i = (r.rows.get i).leave side :=
    modifyRow_self ..
  have used : ¬((r.modifyRow i (·.leave side)).rows.get i).Free := by
    rw [changed, left]
    exact (h.rows.sound i).not_free_of_coupling (hc.trans_ne nofun)
  have present : ((r.modifyRow i (·.leave side)).rows.get i).offering.Present := by
    rw [changed, left]
    cases side <;> assumption
  refine fireEvent_tells (r := r.modifyRow i (·.leave side)) h.slots present rfl .retractOffer
    ?_ ?_ ?_
  · simp only [retractSide, used, ↓reduceIte]
  · simp only [retractSide, used, ↓reduceIte]
    exact fun notice hn => List.mem_append_left _ hn
  · simp only [retractSide, ↓reduceIte, changed, left, retractPort, ho, ha]
    intro notice hn
    refine List.mem_append_right _ ?_
    cases side with
    | offering => exact List.mem_append_right _ hn
    | accepting => exact List.mem_append_left _ hn

/-! ## Going through the table -/

/-- One of two partners has left the row at `i`, and the other one has been told. -/
def TellsOfLeaving {α : Type} (r : Registry) (i : RowIndex) (o : Outcome α) : Prop :=
  (∃ side, o.registry.rows.get i = (r.rows.get i).retracted side) ∧
    o.TellsOfferer i .offerRetracted .retractOffer

theorem TellsOfLeaving.map {α β : Type} {o : Outcome α} (h : r.TellsOfLeaving i o) (f : α → β) :
    r.TellsOfLeaving i (o.map f) := ⟨h.1, h.2.map f⟩

theorem retract_tells (h : r.WellFormed) (hc : (r.rows.get i).coupling = .coupled)
    (present : ((r.rows.get i).partner side).Present) :
    r.TellsOfLeaving i (r.retract (r.rows.get i).key ((r.rows.get i).partner side).id) := by
  refine ⟨⟨side, (retract_row h present i).trans (if_pos rfl)⟩, ?_⟩
  rw [retract_of_present h present]
  exact (retractSide_tells h hc side).map _

/-- A row that a partner has left is not coupled. -/
theorem retract_not_coupled (h : r.WellFormed) (present : ((r.rows.get i).partner side).Present) :
    ((r.retract (r.rows.get i).key ((r.rows.get i).partner side).id).registry.rows.get i).coupling ≠
      .coupled := by
  have sound := h.rows.sound i
  rw [retract_row h present, if_pos rfl]
  rcases sound.retracted_fate (sound.sideOf_id present) with left | withdrawn
  · rw [left.after]
    decide
  · rw [withdrawn.after, Row.coupling_empty]
    decide

/-- Whether whoever is found to leave a row is a partner there. -/
def Finds (leaving : Row → Option ProcessorId) : Prop :=
  ∀ row id, leaving row = some id → ∃ side, (row.partner side).Present ∧ (row.partner side).id = id

theorem finds_sideWith (which : Partner → Bool) :
    Finds fun row => (row.sideWith which).map fun side => (row.partner side).id := by
  intro row id hid
  obtain ⟨side, hs, rfl⟩ := Option.map_eq_some_iff.1 hid
  exact ⟨side, (Row.sideWith_eq_some hs).1, rfl⟩

theorem finds_leavingWithPid (pid : UInt32) : Finds (leavingWithPid pid) :=
  finds_sideWith (·.pid = pid)

theorem finds_sideOf (id : ProcessorId) : Finds fun row => (row.sideOf id).map fun _ => id := by
  intro row id' hid
  obtain ⟨side, hs, rfl⟩ := Option.map_eq_some_iff.1 hid
  exact ⟨side, Row.sideOf_eq_some hs⟩

theorem finds_leavingDead (alive : UInt32 → Bool) : Finds (leavingDead alive) := by
  intro row id hid
  simp only [leavingDead] at hid
  split at hid
  · cases hid
  · exact finds_sideWith (!alive ·.pid) row id hid

section Sweep

variable {leaving : Row → Option ProcessorId}

theorem retractWhile_frame (finds : Finds leaving) (fuel : Nat) (h : r.WellFormed) {j : RowIndex}
    (hij : i ≠ j) : (retractWhile leaving i fuel r).registry.rows.get j = r.rows.get j := by
  let P (r' : Registry) : Prop := r'.WellFormed ∧ r'.rows.get j = r.rows.get j
  have kept : P (retractWhile leaving i fuel r).registry := by
    refine retractWhile_invariant (fun r' id hr hid => ?_) fuel ⟨h, rfl⟩
    obtain ⟨well, same⟩ := hr
    refine ⟨well.retract _ id, ?_⟩
    obtain ⟨side, present, rfl⟩ := finds _ _ hid
    rw [retract_row well present, if_neg hij, same]
  exact kept.2

/-- What holds with all rows still to come, and is kept at the turn of each row, which is as it was until
then, holds when the sweep is over. -/
theorem sweep_induction (finds : Finds leaving) (fuel : Nat) (h : r.WellFormed)
    {M : List RowIndex → Outcome Nat → Prop} (start : M (List.finRange rowCapacity) (r.unchanged 0))
    (turn : ∀ i rest o, i ∉ rest → o.registry.WellFormed → o.registry.rows.get i = r.rows.get i →
      M (i :: rest) o → M rest (o.andThen fun n r => (retractWhile leaving i fuel r).map (n + ·))) :
    M [] (sumRows (fun i => retractWhile leaving i fuel) r) := by
  let N (rest : List RowIndex) (o : Outcome Nat) : Prop :=
    o.registry.WellFormed ∧ (∀ j ∈ rest, o.registry.rows.get j = r.rows.get j) ∧ M rest o
  have all : N [] (sumRows (fun i => retractWhile leaving i fuel) r) := by
    refine sumRows_induction ⟨h, fun _ _ => rfl, start⟩ fun i rest o hi ⟨ho, waiting, soFar⟩ => ?_
    refine ⟨ho.retractWhile leaving i fuel, fun j hj => ?_,
      turn i rest o hi ho (waiting i List.mem_cons_self) soFar⟩
    have hij : i ≠ j := fun same => hi (same ▸ hj)
    exact (retractWhile_frame finds fuel ho hij).trans (waiting j (List.mem_cons_of_mem i hj))
  exact all.2.2

theorem retractWhile_grows (fuel : Nat) : r.Grows (retractWhile leaving i fuel r).registry :=
  retractWhile_invariant (fun _ id h _ => h.trans (retract_grows _ id)) fuel (.refl r)

/-- From a row that is not coupled nobody leaves without making it free. -/
theorem retractWhile_of_offered (finds : Finds leaving) (fuel : Nat) (h : r.WellFormed)
    (before : (r.rows.get i).coupling ≠ .coupled)
    (after : ((retractWhile leaving i fuel r).registry.rows.get i).coupling = .offered) :
    retractWhile leaving i fuel r = r.unchanged 0 := by
  induction fuel generalizing r with
  | zero => rfl
  | succ fuel ih =>
    rw [retractWhile] at after ⊢
    split at after
    · rfl
    rename_i id hid
    exfalso
    obtain ⟨side, present, rfl⟩ := finds _ _ hid
    have gone : (r.retract (r.rows.get i).key ((r.rows.get i).partner side).id).registry.rows.get i =
        .empty := by
      have sound := h.rows.sound i
      rw [retract_row h present, if_pos rfl]
      rcases sound.retracted_fate (sound.sideOf_id present) with left | withdrawn
      · exact absurd left.before before
      · exact withdrawn.after
    have later := h.retract (r.rows.get i).key ((r.rows.get i).partner side).id
    simp only [Outcome.andThen, Outcome.map] at after
    have idle := ih (r := (r.retract (r.rows.get i).key ((r.rows.get i).partner side).id).registry)
      later (by rw [gone, Row.coupling_empty]; decide) after
    rw [idle, unchanged, gone, Row.coupling_empty] at after
    cases after

/-- If one of two partners is found to leave a row and the other one is not, it is told. -/
theorem retractWhile_tells (finds : Finds leaving) (fuel : Nat) (h : r.WellFormed)
    (before : (r.rows.get i).coupling = .coupled)
    (after : ((retractWhile leaving i fuel r).registry.rows.get i).coupling = .offered) :
    r.TellsOfLeaving i (retractWhile leaving i fuel r) := by
  cases fuel with
  | zero =>
    rw [retractWhile, unchanged, before] at after
    cases after
  | succ fuel =>
    rw [retractWhile] at after ⊢
    split at after
    · rw [unchanged, before] at after
      cases after
    rename_i id hid
    obtain ⟨side, present, rfl⟩ := finds _ _ hid
    obtain ⟨⟨left, hrow⟩, tells⟩ := retract_tells h before present
    have later := h.retract (r.rows.get i).key ((r.rows.get i).partner side).id
    have alone := retract_not_coupled h present
    simp only [Outcome.andThen, Outcome.map] at after ⊢
    have idle := retractWhile_of_offered finds fuel later alone after
    have rest : (retractWhile leaving i fuel (r.retract (r.rows.get i).key
        ((r.rows.get i).partner side).id).registry).registry =
        (r.retract (r.rows.get i).key ((r.rows.get i).partner side).id).registry := by
      exact congrArg Outcome.registry idle
    refine ⟨⟨left, ?_⟩, tells.later ?_ ?_ fun _ hn => List.mem_append_left _ hn⟩
    · dsimp only
      rw [rest, hrow]
    · dsimp only
      rw [rest]
      exact .refl _
    · dsimp only
      rw [rest]

/-- Going through the table tells every partner that remains of two. -/
theorem sweep_tells (finds : Finds leaving) (fuel : Nat) (h : r.WellFormed)
    (before : (r.rows.get i).coupling = .coupled)
    (after : ((sumRows (fun i => retractWhile leaving i fuel) r).registry.rows.get i).coupling =
      .offered) :
    r.TellsOfLeaving i (sumRows (fun i => retractWhile leaving i fuel) r) := by
  have inv (i : RowIndex) (r : Registry) (h : r.WellFormed) :
      (retractWhile leaving i fuel r).registry.WellFormed := h.retractWhile leaving i fuel
  obtain ⟨r', h', -, hrow, grows, hrow', notices⟩ := sumRows_at inv
    (fun _ _ _ => retractWhile_grows fuel) (fun _ _ _ h hij => retractWhile_frame finds fuel h hij)
    h i
  rw [hrow'] at after
  obtain ⟨⟨side, hside⟩, tells⟩ :=
    retractWhile_tells finds fuel h' (hrow.symm ▸ before) after
  refine ⟨⟨side, ?_⟩, tells.later grows hrow' notices⟩
  rw [hrow', hside, hrow]

end Sweep

/-! ## Ports -/

section Ports

variable {key : Key}

theorem port_of_mem_notify {port : UInt16} {kind : NoticeKind} {notice : Notice}
    (h : notice ∈ notify port kind key) : notice.port ≠ 0 := by
  rw [notify] at h
  split at h
  · cases h
  · rename_i hp
    rw [List.mem_singleton.1 h]
    exact hp

theorem unchanged_deliverable {α : Type} (value : α) : (r.unchanged value).Deliverable :=
  fun _ hn => absurd hn List.not_mem_nil

theorem fireEvent_deliverable (event : Event) : (r.fireEvent i side event).Deliverable := by
  simp only [fireEvent]
  split
  · exact fun _ => port_of_mem_notify
  · exact unchanged_deliverable _

theorem addEvent_deliverable (event : Event) : (r.addEvent event id key).Deliverable := by
  simp only [addEvent]
  split
  · exact fireEvent_deliverable event
  · exact fun _ => port_of_mem_notify

theorem setState_deliverable (used : Bool) : (r.setState key id used).Deliverable := by
  simp only [setState]
  split
  · exact unchanged_deliverable _
  split
  · split
    · exact unchanged_deliverable _
    split
    · exact fireEvent_deliverable _
    · exact unchanged_deliverable _
  · split
    · exact fireEvent_deliverable _
    · exact unchanged_deliverable _

theorem mayAccess_deliverable (attempt : Int32) (byMe : Control) (failed : Event) :
    (r.mayAccess key id attempt byMe failed).Deliverable := by
  simp only [mayAccess]
  split
  · exact unchanged_deliverable _
  split
  · exact unchanged_deliverable _
  split
  · exact (fireEvent_deliverable failed).map _
  · exact unchanged_deliverable _

theorem setControl_deliverable (control : Control) : (r.setControl key id control).Deliverable := by
  simp only [setControl]
  split
  · exact unchanged_deliverable _
  split
  · exact (fireEvent_deliverable _).andThen (unchanged_deliverable _)
  · exact (unchanged_deliverable _).andThen (unchanged_deliverable _)

theorem matchPendingOffer_deliverable (name : Name) (addressee : ProcessorId) (p : Partner) :
    (r.matchPendingOffer name addressee p).Deliverable := by
  simp only [matchPendingOffer]
  split
  · exact unchanged_deliverable _
  · intro notice hn
    rcases List.mem_append.1 hn with fired | matched
    · exact fireEvent_deliverable _ notice fired
    · exact port_of_mem_notify matched

/-- A new offer is announced to one port at most. The key that is made for it does not matter here. -/
theorem mem_notify_of_createOffer {name : Name} {addressee : ProcessorId} {p : Partner} {notice : Notice}
    (hn : notice ∈ (r.createOffer name addressee p).notices) :
    ∃ port key, notice ∈ notify port .makeOffer key := by
  unfold createOffer at hn
  generalize r.freshKey p.pid p.id.proc = fresh at hn
  obtain ⟨key, seq⟩ := fresh
  split at hn
  · split at hn
    · cases hn
    · exact ⟨_, key, hn⟩
  · cases hn

theorem createOffer_deliverable (name : Name) (addressee : ProcessorId) (p : Partner) :
    (r.createOffer name addressee p).Deliverable := by
  intro notice hn
  obtain ⟨port, key, sent⟩ := mem_notify_of_createOffer hn
  exact port_of_mem_notify sent

theorem matchOrMake_deliverable (name : Name) (addressee : ProcessorId) (p : Partner) :
    (r.matchOrMake name addressee p).Deliverable := by
  simp only [matchOrMake]
  split
  · refine (matchPendingOffer_deliverable name addressee p).andThen ?_
    split
    · exact unchanged_deliverable _
    · exact (createOffer_deliverable name addressee p).andThen (unchanged_deliverable _)
  · exact unchanged_deliverable _

theorem retract_deliverable (key : Key) (id : ProcessorId) : (r.retract key id).Deliverable := by
  simp only [retract]
  split
  · exact unchanged_deliverable _
  split
  · exact unchanged_deliverable _
  refine Outcome.Deliverable.map (fun notice hn => ?_) _
  simp only [retractSide, List.mem_append] at hn
  rcases hn with told | offering | accepting
  · split at told
    · exact unchanged_deliverable _ notice told
    · exact fireEvent_deliverable _ notice told
  · exact port_of_mem_notify offering
  · exact port_of_mem_notify accepting

theorem retractWhile_deliverable (leaving : Row → Option ProcessorId) (fuel : Nat) :
    (retractWhile leaving i fuel r).Deliverable := by
  induction fuel generalizing r with
  | zero => exact unchanged_deliverable _
  | succ fuel ih =>
    simp only [retractWhile]
    split
    · exact unchanged_deliverable _
    · exact (retract_deliverable _ _).andThen (ih.map _)

theorem sumRows_deliverable {step : RowIndex → Registry → Outcome Nat}
    (h : ∀ i r, (step i r).Deliverable) : (sumRows step r).Deliverable := by
  refine sumRows_induction (M := fun _ o => o.Deliverable) (unchanged_deliverable 0) ?_
  exact fun i _ _ _ ho => ho.andThen ((h i _).map _)

theorem removeStale_deliverable (alive : UInt32 → Bool) : (r.removeStale alive).Deliverable := by
  have cleared : (r.unregisterWhere (!alive ·.pid)).Deliverable :=
    fun _ hn => absurd hn List.not_mem_nil
  refine cleared.andThen (Outcome.Deliverable.map ?_ _)
  exact sumRows_deliverable fun _ _ => retractWhile_deliverable _ _

/-- No operation sends anything to port 0. -/
theorem perform_deliverable (op : Operation) : (r.perform op).Deliverable := by
  cases op with
  | matchOrMake name addressee p => exact (matchOrMake_deliverable name addressee p).map _
  | createOffer name addressee p => exact (createOffer_deliverable name addressee p).map _
  | matchPendingOffer name addressee p => exact (matchPendingOffer_deliverable name addressee p).map _
  | retract key id => exact (retract_deliverable key id).map _
  | retractAllOf pid => exact (sumRows_deliverable fun _ _ => retractWhile_deliverable _ _).map _
  | retractAllBy id => exact (sumRows_deliverable fun _ _ => retractWhile_deliverable _ _).map _
  | setState key id used => exact setState_deliverable used
  | setControl key id control => exact (setControl_deliverable control).map _
  | mayUse key id attempt => exact (mayAccess_deliverable attempt _ _).map _
  | maySet key id attempt => exact (mayAccess_deliverable attempt _ _).map _
  | addEvent event id key => exact addEvent_deliverable event
  | clearEvent key id => exact fun _ hn => absurd hn List.not_mem_nil
  | clearAllEvents id => exact fun _ hn => absurd hn List.not_mem_nil
  | registerProcessor id pid port =>
    intro notice hn
    rw [perform, Outcome.map, registerProcessor_notices] at hn
    exact absurd hn List.not_mem_nil
  | unregisterProcessor id =>
    simp only [perform, unregisterProcessor]
    split <;> exact fun _ hn => absurd hn List.not_mem_nil
  | unregisterPid pid => exact fun _ hn => absurd hn List.not_mem_nil
  | removeStale alive =>
    exact (removeStale_deliverable alive).map _

end Ports

/-! ## All operations -/

variable {op : Operation}

theorem perform_sweep_tells (h : r.WellFormed) {which : Partner → Bool}
    (bulk : op.sweeps? = some which) (before : (r.rows.get i).coupling = .coupled)
    (after : ((r.perform op).registry.rows.get i).coupling = .offered) :
    r.TellsOfLeaving i (r.perform op) := by
  cases op <;> cases bulk
  case retractAllOf pid =>
    simp only [perform, Outcome.map] at after
    exact (sweep_tells (finds_leavingWithPid pid) 2 h before after).map fun _ => ()
  case retractAllBy id =>
    simp only [perform, Outcome.map] at after
    exact (sweep_tells (finds_sideOf id) 1 h before after).map fun _ => ()
  case removeStale alive =>
    have cleared : (r.unregisterWhere (!alive ·.pid)).registry.WellFormed :=
      h.unregisterWhere (!alive ·)
    simp only [perform, Outcome.map] at after
    rw [removeStale_registry] at after
    obtain ⟨left, tells⟩ := sweep_tells (i := i) (finds_leavingDead alive) 2 cleared before after
    have swept : r.TellsOfLeaving i (r.removeStale alive) := by
      refine ⟨?_, tells.later ?_ ?_ fun _ hn => ?_⟩
      · rw [removeStale_registry]
        exact left
      · rw [removeStale_registry]
        exact .refl _
      · rw [removeStale_registry]
      · exact List.mem_append_right _ hn
    exact swept.map fun _ => ()

/-- Whatever the operation is, if one of two partners has left a row then the other one has been told. -/
theorem perform_tellsOfLeaving (h : r.WellFormed) (before : (r.rows.get i).coupling = .coupled)
    (after : ((r.perform op).registry.rows.get i).coupling = .offered) :
    r.TellsOfLeaving i (r.perform op) := by
  cases hw : op.sweeps? with
  | some which => exact perform_sweep_tells h hw before after
  | none =>
    obtain ⟨fate, meets⟩ := (perform_changes h hw).meets i
    have leaves : fate = .left := by rw [meets.eq_ofCouplings, before, after]; rfl
    subst leaves
    have left : (r.rows.get i).Left op ((r.perform op).registry.rows.get i) := meets
    obtain ⟨side, rfl, -⟩ := left.departure
    have present : ((r.rows.get i).partner side).Present := by
      obtain ⟨ho, ha⟩ := Row.coupling_eq_coupled_iff.1 before
      cases side <;> assumption
    exact (retract_tells h before present).map fun _ => ()

/-- An operation that couples a row is a request that takes up the offer there. -/
theorem perform_taken (h : r.WellFormed) (before : (r.rows.get i).coupling = .offered)
    (after : ((r.perform op).registry.rows.get i).coupling = .coupled) :
    (r.rows.get i).Taken op ((r.perform op).registry.rows.get i) := by
  cases hw : op.sweeps? with
  | some which =>
    have same := Row.eq_of_takesOut (perform_takesOut h hw i) after
    rw [same, before] at after
    cases after
  | none =>
    obtain ⟨fate, meets⟩ := (perform_changes h hw).meets i
    have takes : fate = .taken := by rw [meets.eq_ofCouplings, before, after]; rfl
    subst takes
    exact meets

/-- The row that a request couples is the one that it has found. -/
theorem findPending_of_coupled {name : Name} {addressee : ProcessorId} {p : Partner}
    (before : (r.rows.get i).coupling = .offered)
    (after : ((r.matchPendingOffer name addressee p).registry.rows.get i).coupling = .coupled) :
    r.findPending name addressee p.id = some i := by
  cases hi : r.findPending name addressee p.id with
  | none =>
    have same : (r.matchPendingOffer name addressee p).registry = r := by
      simp only [matchPendingOffer, hi, unchanged]
    rw [same, before] at after
    cases after
  | some j =>
    rw [(matchPendingOffer_of_pending hi).2, get_put] at after
    split at after
    · rename_i hij
      rw [hij]
    · rw [before] at after
      cases after

theorem perform_tellsOfMatch (h : r.WellFormed) (before : (r.rows.get i).coupling = .offered)
    (after : ((r.perform op).registry.rows.get i).coupling = .coupled) :
    (r.perform op).TellsOfferer i .offerMatched .offerMatched := by
  obtain ⟨name, addressee, p, rfl | ⟨present, rfl⟩, -, -⟩ := (perform_taken h before after).acceptance
  · simp only [perform, Outcome.map] at after
    by_cases hp : p.Present
    · cases hi : r.findPending name addressee p.id with
      | none =>
        have made : (r.matchOrMake name addressee p).registry =
            (r.createOffer name addressee p).registry := by
          simp only [matchOrMake, hp, ↓reduceIte, matchPendingOffer, hi, Outcome.andThen, unchanged]
        rw [made] at after
        have taken : (r.rows.get i).Taken (.createOffer name addressee p)
            ((r.createOffer name addressee p).registry.rows.get i) :=
          perform_taken h before after
        obtain ⟨_, _, _, hop | ⟨_, hop⟩, -⟩ := taken.acceptance <;> cases hop
      | some j =>
        have matched : ∃ value, r.matchOrMake name addressee p =
            (r.matchPendingOffer name addressee p).map fun _ => value := by
          simp only [matchOrMake, hp, ↓reduceIte, Outcome.andThen, (matchPendingOffer_of_pending hi).1,
            unchanged, List.append_nil]
          exact ⟨_, rfl⟩
        obtain ⟨value, matched⟩ := matched
        rw [matched] at after
        rw [perform, matched]
        have found := findPending_of_coupled before after
        exact ((matchPendingOffer_tells h found).map _).map _
    · rw [matchOrMake, if_neg hp, unchanged, before] at after
      cases after
  · exact (matchPendingOffer_tells h (findPending_of_coupled before after)).map fun _ => ()

/-- The partner that remains is always told. Whatever the operation: if one of two partners has left a
row, then the other one, which is on the offering side now, has been told of the retract, under the key
that the row had; if an offer has been taken up, then the partner that made it has been told of the match;
and nothing is sent to port 0. -/
theorem partners_are_told (h : r.Reachable) (op : Operation) :
    let o := r.perform op
    (∀ i : RowIndex, (r.rows.get i).coupling = .coupled →
      (o.registry.rows.get i).coupling = .offered →
      (o.registry.rows.get i).key = (r.rows.get i).key ∧
        (∃ side, (o.registry.rows.get i).target = ((r.rows.get i).partner side).id ∧
          (o.registry.rows.get i).offering.bare = ((r.rows.get i).partner side.other).bare) ∧
        o.TellsOfferer i .offerRetracted .retractOffer) ∧
      (∀ i : RowIndex, (r.rows.get i).coupling = .offered →
        (o.registry.rows.get i).coupling = .coupled →
        (o.registry.rows.get i).key = (r.rows.get i).key ∧
          (o.registry.rows.get i).offering.bare = (r.rows.get i).offering.bare ∧
          o.TellsOfferer i .offerMatched .offerMatched) ∧
      o.Deliverable := by
  intro o
  have well := h.wellFormed
  refine ⟨fun i before after => ?_, fun i before after => ?_, perform_deliverable op⟩
  · obtain ⟨⟨side, left⟩, tells⟩ := perform_tellsOfLeaving well before after
    have used := (well.rows.sound i).not_free_of_coupling (before.trans_ne nofun)
    rw [Row.retracted_of_coupled before used] at left
    refine ⟨?_, ⟨side, ?_, ?_⟩, tells⟩
    · rw [left]
    · rw [left]
      rfl
    · rw [left]
      rfl
  · have taken := perform_taken well before after
    exact ⟨taken.key, taken.offering, perform_tellsOfMatch well before after⟩

/-- A partner that has no port in the row is registered with one. The process of the other partner dies,
and when it is cleared away the event goes to the registered port. -/
theorem partners_are_told_of_death :
    let a := Partner.ofProcess (.single 1001) 10 0
    let b := Partner.ofProcess (.single 1002) 20 5002
    let name := Name.ofText "LEVEL"
    let r := empty.run [.registerProcessor a.id a.pid 5001, .registerProcessor b.id b.pid b.port,
      .matchOrMake name .general a, .matchOrMake name a.id b]
    let o := r.perform (.removeStale (· ≠ 20))
    o.TellsOfferer 0 .offerRetracted .retractOffer ∧ o.registry.isRegistered a.id = true ∧
      ⟨5001, .newEvent .offerRetracted, (r.rows.get 0).key⟩ ∈ o.notices ∧
      ∀ notice ∈ o.notices, notice.port ≠ 0 := by
  intro a b name r o
  obtain ⟨left, -, deliverable⟩ := partners_are_told (r := r) ⟨_, rfl⟩ (.removeStale (· ≠ 20))
  obtain ⟨key, -, tells⟩ := left 0 (by decide +kernel) (by decide +kernel)
  change (o.registry.rows.get 0).key = (r.rows.get 0).key at key
  change o.TellsOfferer 0 .offerRetracted .retractOffer at tells
  change o.Deliverable at deliverable
  have registered : o.registry.isRegistered a.id = true := by decide +kernel
  have portless : (o.registry.rows.get 0).offering.port = 0 := by decide +kernel
  have held : (o.registry.slots.get 0).Holds (o.registry.rows.get 0).offering.id := by decide +kernel
  have port : (o.registry.slots.get 0).partner.port = 5001 := by decide +kernel
  clear_value o
  have announced := tells.announcedAtSlot portless 0 held (by rw [port]; decide)
  rw [port, key] at announced
  exact ⟨tells, registered, announced, deliverable⟩

end Registry

end SharedVariables
