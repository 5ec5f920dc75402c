import SharedVariables.Proofs.Registry.Operation

/-!
# Well-formed registries

In a well-formed registry a free row is empty, no two variables have the same key, and every
variable is offered: by its offering side alone, then the accepting side only names whom it is
offered to, or to two different partners, who share it. No two slots hold the same processor.

Each step of `RowStep` keeps what is asked of the rows and each step of `SlotStep` what is asked of
the slots, so every operation keeps a registry well formed (`WellFormed.perform`), and every run
from the empty registry leads to a well-formed one (`run_empty_wellFormed`).
-/

namespace SharedVariables

open Relation

/-- What holds of a row by itself. -/
structure Row.Sound (row : Row) : Prop where
  free : row.Free → row = .empty
  used : ¬row.Free → row.offering.Present
  coupled : row.coupling = .coupled → row.offering.id ≠ row.accepting.id ∧ row.state ≠ .notShared
  /-- The accepting side of an offer is a mere target. -/
  offered : row.coupling = .offered →
    row.accepting.pid = 0 ∧ row.accepting.port = 0 ∧ row.state ≠ .acceptingHasSet
  coded : ∃ s : AccessState, row.stateCode = s.code

/-- What holds of the table of rows. -/
structure RowsSound (rows : Vector Row rowCapacity) : Prop where
  sound : ∀ i : RowIndex, (rows.get i).Sound
  keys : ∀ i j : RowIndex, ¬(rows.get i).Free → (rows.get i).key = (rows.get j).key → i = j

/-- What holds of the table of slots. -/
structure SlotsSound (slots : Vector Slot slotCapacity) : Prop where
  unused : ∀ i : SlotIndex, ¬(slots.get i).Used → slots.get i = .empty
  ids : ∀ i j : SlotIndex, (slots.get i).Used → (slots.get j).Used →
    (slots.get i).partner.id = (slots.get j).partner.id → i = j

/-- What holds of a registry that has come about by operations. -/
structure Registry.WellFormed (r : Registry) : Prop where
  rows : RowsSound r.rows
  slots : SlotsSound r.slots

/-! ## Rows -/

namespace Row

theorem state_of_code {row : Row} {s : AccessState} (h : row.stateCode = s.code) :
    row.state = s := by
  rw [state, h, AccessState.ofCode_code]

@[simp] theorem state_withState (row : Row) (s : AccessState) : (row.withState s).state = s :=
  state_of_code rfl

theorem state_accept (row : Row) (name : Name) (p : Partner) :
    (row.accept name p).state = if row.state = .notShared then .idle else row.state := by
  by_cases h : row.state = .notShared
  · rw [if_pos h]
    exact state_of_code (if_pos h)
  · rw [if_neg h]
    exact congrArg AccessState.ofCode (if_neg h)

@[simp] theorem stateCode_withPartner (row : Row) (p : Partner) (side : Side) :
    (row.withPartner p side).stateCode = row.stateCode := by
  cases side <;> rfl

theorem clearEvent_empty (id : ProcessorId) : empty.clearEvent id = empty := by
  simp only [clearEvent, sideOf_empty]

theorem sound_empty : empty.Sound where
  free _ := rfl
  used h := absurd rfl h
  coupled h := absurd (coupling_eq_coupled_iff.1 h).1 Partner.not_present_empty
  offered h := absurd (coupling_eq_offered_iff.1 h).1 Partner.not_present_empty
  coded := ⟨.notShared, rfl⟩

namespace Sound

variable {row row' : Row}

theorem not_free_of_present (h : row.Sound) {side : Side} (hp : (row.partner side).Present) :
    ¬row.Free := fun hf => by
  rw [h.free hf] at hp
  exact not_present_partner_empty side hp

/-- A row that is offered or coupled is in use. -/
theorem not_free_of_coupling (h : row.Sound) (shared : row.coupling ≠ .none) : ¬row.Free := fun hf => by
  rw [h.free hf] at shared
  exact shared (coupling_eq_none_iff.2 Partner.not_present_empty)

theorem coupling_ne_none (h : row.Sound) (hf : ¬row.Free) : row.coupling ≠ .none :=
  fun hc => coupling_eq_none_iff.1 hc (h.used hf)

/-- The partner of a mere offer is on its offering side. -/
theorem side_of_offered (hc : row.coupling = .offered) {side : Side}
    (hp : (row.partner side).Present) : side = .offering := by
  cases side with
  | offering => rfl
  | accepting => exact absurd hp (coupling_eq_offered_iff.1 hc).2

/-- A variable keeps sound if its partners stay and its access state is one that it may have. -/
theorem of_bare (h : row.Sound) (hf : ¬row.Free) (hb : row'.bare = row.bare)
    (coupled : row.coupling = .coupled → row'.state ≠ .notShared)
    (offered : row.coupling = .offered → row'.state ≠ .acceptingHasSet)
    (coded : ∃ s : AccessState, row'.stateCode = s.code) : row'.Sound where
  free hf' := absurd ((free_of_bare hb).1 hf') hf
  used _ := (present_of_bare hb .offering).2 (h.used hf)
  coupled hc := by
    rw [coupling_of_bare hb] at hc
    have ho := id_of_bare hb .offering
    have ha := id_of_bare hb .accepting
    simp only [partner] at ho ha
    rw [ho, ha]
    exact ⟨(h.coupled hc).1, coupled hc⟩
  offered hc := by
    rw [coupling_of_bare hb] at hc
    have ha := pid_of_bare hb .accepting
    have hp := port_of_bare hb .accepting
    simp only [partner] at ha hp
    rw [ha, hp]
    exact ⟨(h.offered hc).1, (h.offered hc).2.1, offered hc⟩
  coded := coded

/-- Flags do not matter. -/
theorem of_flags (h : row.Sound) (hf : ¬row.Free) (hb : row'.bare = row.bare)
    (hs : row'.stateCode = row.stateCode) : row'.Sound := by
  have hst : row'.state = row.state := congrArg AccessState.ofCode hs
  refine h.of_bare hf hb (fun hc => ?_) (fun hc => ?_) ?_
  · rw [hst]; exact (h.coupled hc).2
  · rw [hst]; exact (h.offered hc).2.2
  · rw [hs]; exact h.coded

theorem clearEvent (h : row.Sound) (id : ProcessorId) : (row.clearEvent id).Sound := by
  by_cases hf : row.Free
  · rw [h.free hf, clearEvent_empty]
    exact sound_empty
  · refine h.of_flags hf (bare_clearEvent ..) ?_
    simp only [Row.clearEvent]
    split
    · exact stateCode_withPartner ..
    · rfl

/-- A partner that uses the variable or sets it. -/
theorem withState (h : row.Sound) {side : Side} {s : AccessState}
    (hp : (row.partner side).Present) (hs : s = .idle ∨ s = Registry.stateSetBy side) :
    (row.withState s).Sound := by
  refine h.of_bare (h.not_free_of_present hp) rfl (fun _ => ?_) (fun hc => ?_) ⟨s, rfl⟩
  · rw [state_withState]
    rcases hs with rfl | rfl
    · decide
    · cases side <;> decide
  · rw [state_withState, side_of_offered hc hp] at *
    rcases hs with rfl | rfl <;> decide

theorem accept (h : row.Sound) {name : Name} {addressee : ProcessorId} {p : Partner}
    (hp : p.Present) (hc : row.isCompletedBy name addressee p.id = true) :
    (row.accept name p).Sound := by
  obtain ⟨hoffered, hne⟩ := isCompletedBy_iff.1 hc |>.imp_right fun h => canCouple_ne h.2
  have ho := (coupling_eq_offered_iff.1 hoffered).1
  have hcoupled : (row.accept name p).coupling = .coupled := coupling_eq_coupled_iff.2 ⟨ho, hp⟩
  have hf := h.not_free_of_coupling (hoffered.trans_ne nofun)
  exact
    { free := fun hf' => absurd hf' hf
      used := fun _ => ho
      coupled := fun _ => ⟨hne, by
        rw [state_accept]
        split
        · decide
        · assumption⟩
      offered := fun hc' => by rw [hcoupled] at hc'; cases hc'
      coded := by
        simp only [Row.accept]
        split
        · exact ⟨.idle, rfl⟩
        · exact h.coded }

theorem pending {key : Key} {name : Name} {addressee : ProcessorId} {p : Partner} {told : Bool}
    (hk : ¬key.IsNone) (hp : p.Present) :
    (Row.pending key name addressee p told).Sound where
  free hf := absurd hf hk
  used _ := hp
  coupled hc := absurd (coupling_eq_coupled_iff.1 hc).2 fun h => h.1 rfl
  offered _ := ⟨rfl, rfl, by rw [state_of_code (s := .notShared) rfl]; decide⟩
  coded := ⟨.notShared, rfl⟩

theorem leave (h : row.Sound) {side : Side} (hp : (row.partner side).Present) :
    (row.leave side).Sound := by
  cases hc : row.coupling with
  | none => exact absurd hc (h.coupling_ne_none (h.not_free_of_present hp))
  | offered =>
    rw [side_of_offered hc hp, leave_of_offered hc]
    exact sound_empty
  | coupled =>
    have ho : (row.partner side.other).Present := by
      obtain ⟨ho, ha⟩ := coupling_eq_coupled_iff.1 hc
      cases side
      · exact ha
      · exact ho
    rw [leave_of_coupled hc]
    exact
      { free := fun hf => absurd hf (h.not_free_of_present hp)
        used := fun _ => ho
        coupled := fun hc' =>
          absurd (coupling_eq_coupled_iff.1 hc').2 (Partner.not_present_target _)
        offered := fun _ => ⟨rfl, rfl, by rw [state_of_code (s := .notShared) rfl]; decide⟩
        coded := ⟨.notShared, rfl⟩ }

end Sound

end Row

namespace RowsSound

variable {rows rows' : Vector Row rowCapacity}

/-- One row may be replaced by a sound one that keeps the key, is free or has a new key. -/
theorem set (h : RowsSound rows) (i : RowIndex) {row : Row} (hs : row.Sound)
    (hk : row.key = (rows.get i).key ∨ row.Free ∨ ∀ j : RowIndex, (rows.get j).key ≠ row.key) :
    RowsSound (put rows i row) where
  sound j := by
    rw [get_put]
    split
    · exact hs
    · exact h.sound j
  keys j k hj he := by
    rw [get_put] at hj he
    rw [get_put] at he
    by_cases hij : i = j <;> by_cases hik : i = k
    · exact hij.symm.trans hik
    · rw [if_pos hij] at hj he
      rw [if_neg hik] at he
      rcases hk with hk | hk | hk
      · have hi : ¬(rows.get i).Free := by rwa [Row.Free, ← hk]
        exact hij.symm.trans (h.keys i k hi (hk.symm.trans he))
      · exact absurd hk hj
      · exact absurd he.symm (hk k)
    · rw [if_neg hij] at hj he
      rw [if_pos hik] at he
      rcases hk with hk | hk | hk
      · exact (h.keys j i hj (he.trans hk)).trans hik
      · exact absurd (he.trans hk) hj
      · exact absurd he (hk j)
    · rw [if_neg hij] at hj he
      rw [if_neg hik] at he
      exact h.keys j k hj he

theorem not_free (h : RowsSound rows) {i : RowIndex} {side : Side}
    (hp : ((rows.get i).partner side).Present) : ¬(rows.get i).Free :=
  (h.sound i).not_free_of_present hp

/-- A row step keeps the table sound, whoever it is done for. -/
theorem step {who : ProcessorId → Prop} (h : RowsSound rows) (s : RowStep who rows rows') :
    RowsSound rows' := by
  cases s with
  | mark i side present =>
    exact h.set i ((h.sound i).of_flags (h.not_free present) (Row.bare_markEvent ..)
      (Row.stateCode_withPartner ..)) (.inl (Row.key_of_bare (Row.bare_markEvent ..)))
  | unmark i id =>
    exact h.set i ((h.sound i).clearEvent id) (.inl (Row.key_of_bare (Row.bare_clearEvent ..)))
  | restrict i side control present =>
    exact h.set i ((h.sound i).of_flags (h.not_free present) (Row.bare_withControl ..)
      (Row.stateCode_withPartner ..)) (.inl (Row.key_of_bare (Row.bare_withControl ..)))
  | access i side state present _ reached =>
    exact h.set i ((h.sound i).withState present reached) (.inl rfl)
  | accept i name addressee p present _ completed =>
    exact h.set i ((h.sound i).accept present completed) (.inl rfl)
  | offer i key name addressee p told free present _ names fresh =>
    exact h.set i (.pending names present) (.inr (.inr fresh))
  | leave i side present =>
    refine h.set i ((h.sound i).leave present) ?_
    cases hc : (rows.get i).coupling with
    | none => exact absurd hc ((h.sound i).coupling_ne_none (h.not_free present))
    | offered =>
      rw [Row.Sound.side_of_offered hc present, Row.leave_of_offered hc]
      exact .inr (.inl rfl)
    | coupled =>
      rw [Row.leave_of_coupled hc]
      exact .inl rfl

theorem steps {who : ProcessorId → Prop} (h : RowsSound rows)
    (s : ReflTransGen (RowStep who) rows rows') : RowsSound rows' := by
  induction s with
  | refl => exact h
  | tail _ s ih => exact ih.step s

end RowsSound

/-! ## Slots -/

namespace SlotsSound

variable {slots slots' : Vector Slot slotCapacity}

/-- One slot may be replaced by an empty one, or by one for the same processor or a new one. -/
theorem set (h : SlotsSound slots) (i : SlotIndex) {slot : Slot} (hu : ¬slot.Used → slot = .empty)
    (hi : slot.Used → slot.partner.id = (slots.get i).partner.id ∧ (slots.get i).Used ∨
      ∀ j : SlotIndex, ¬(slots.get j).Holds slot.partner.id) : SlotsSound (put slots i slot) where
  unused j hj := by
    rw [get_put] at hj ⊢
    by_cases hij : i = j
    · rw [if_pos hij] at hj ⊢
      exact hu hj
    · rw [if_neg hij] at hj ⊢
      exact h.unused j hj
  ids j k hj hk he := by
    rw [get_put] at hj hk he
    rw [get_put] at he
    by_cases hij : i = j <;> by_cases hik : i = k
    · exact hij.symm.trans hik
    · rw [if_pos hij] at hj he
      rw [if_neg hik] at hk he
      rcases hi hj with ⟨hid, used⟩ | new
      · exact hij.symm.trans (h.ids i k used hk (hid.symm.trans he))
      · exact absurd ⟨hk, he.symm⟩ (new k)
    · rw [if_neg hij] at hj he
      rw [if_pos hik] at hk he
      rcases hi hk with ⟨hid, used⟩ | new
      · exact (h.ids j i hj used (he.trans hid)).trans hik
      · exact absurd ⟨hj, he⟩ (new j)
    · rw [if_neg hij] at hj he
      rw [if_neg hik] at hk he
      exact h.ids j k hj hk he

/-- A slot step keeps the table sound, whoever it is done for. -/
theorem step {who : ProcessorId → Prop} (h : SlotsSound slots) (s : SlotStep who slots slots') :
    SlotsSound slots' := by
  cases s with
  | record i event used => exact h.set i (fun hu => absurd used hu) fun _ => .inl ⟨rfl, used⟩
  | forget i used => exact h.set i (fun hu => absurd used hu) fun _ => .inl ⟨rfl, used⟩
  | refresh i pid port used _ named =>
    exact h.set i (fun hu => absurd ⟨named, used.2⟩ hu) fun _ => .inl ⟨rfl, used⟩
  | enroll i p _ present _ new => exact h.set i (fun hu => absurd present hu) fun _ => .inr new
  | vacate i => exact h.set i (fun _ => rfl) fun hu => absurd hu Partner.not_present_empty

theorem steps {who : ProcessorId → Prop} (h : SlotsSound slots)
    (s : ReflTransGen (SlotStep who) slots slots') : SlotsSound slots' := by
  induction s with
  | refl => exact h
  | tail _ s ih => exact ih.step s

end SlotsSound

namespace Registry

/-- A processor is found in the slot that holds it. -/
theorem findSlot_of_holds {r : Registry} (slots : SlotsSound r.slots) {id : ProcessorId} {j : SlotIndex}
    (hj : (r.slots.get j).Holds id) : r.findSlot id = some j := by
  cases hk : r.findSlot id with
  | none => exact absurd hj (findSlot_eq_none_iff.1 hk j)
  | some k =>
    obtain ⟨used, hid⟩ := findSlot_eq_some hk
    rw [slots.ids k j used hj.1 (hid.trans hj.2.symm)]

/-! ## Runs -/

theorem empty_wellFormed : empty.WellFormed where
  rows :=
    { sound := fun i => by rw [rows_empty]; exact Row.sound_empty
      keys := fun i j hi => absurd (by rw [rows_empty]; rfl) hi }
  slots :=
    { unused := fun i _ => slots_empty i
      ids := fun i j hi => by rw [slots_empty] at hi; exact absurd hi Partner.not_present_empty }

namespace WellFormed

variable {r r' : Registry}

theorem evolves {shares enrolls : ProcessorId → Prop} (h : r.WellFormed)
    (e : r.Evolves shares enrolls r') : r'.WellFormed :=
  ⟨h.rows.steps e.rows, h.slots.steps e.slots⟩

theorem perform (h : r.WellFormed) (op : Operation) : (r.perform op).registry.WellFormed :=
  h.evolves (perform_evolves r op)

theorem unregisterWhere (h : r.WellFormed) (which : UInt32 → Bool) :
    (r.unregisterWhere (which ·.pid)).registry.WellFormed :=
  have e : r.Evolves (fun _ => False) (r.HoldsSlot which) _ := unregisterWhere_evolves r which
  h.evolves e

theorem run (h : r.WellFormed) (ops : List Operation) : (r.run ops).WellFormed :=
  run_induction (fun _ op h => h.perform op) h ops

theorem retract (h : r.WellFormed) (key : Key) (id : ProcessorId) :
    (r.retract key id).registry.WellFormed :=
  h.perform (.retract key id)

theorem retractWhile (h : r.WellFormed) (leaving : Row → Option ProcessorId) (i : RowIndex)
    (fuel : Nat) : (Registry.retractWhile leaving i fuel r).registry.WellFormed :=
  retractWhile_invariant (fun _ id h _ => h.retract _ id) fuel h

theorem sweep (h : r.WellFormed) (leaving : Row → Option ProcessorId) (fuel : Nat) :
    (r.sumRows fun i => Registry.retractWhile leaving i fuel).registry.WellFormed :=
  sumRows_invariant (fun i _ h => h.retractWhile leaving i fuel) h

theorem retractAllBy (h : r.WellFormed) (id : ProcessorId) :
    (r.retractAllBy id).registry.WellFormed :=
  h.sweep _ 1

theorem removeStale (h : r.WellFormed) (alive : UInt32 → Bool) :
    (r.removeStale alive).registry.WellFormed := by
  rw [removeStale_registry]
  exact (h.unregisterWhere (!alive ·)).sweep _ 2

end WellFormed

theorem Reachable.wellFormed {r : Registry} (h : r.Reachable) : r.WellFormed := by
  obtain ⟨ops, rfl⟩ := h
  exact empty_wellFormed.run ops

/-- Whatever is done to the empty registry, in whatever order, the registry is well formed. -/
theorem run_empty_wellFormed (ops : List Operation) : (empty.run ops).WellFormed :=
  empty_wellFormed.run ops

end Registry

end SharedVariables
