import SharedVariables.Proofs.Registry.Sweeping

/-!
# Reclaiming what dead processes hold

`removeStale` empties the slots of dead processes and then sweeps their partners out of the rows. The two
have little to do with each other: the rows do not matter for the slots that are emptied
(`unregisterWhere_slot`), and the sweep adds an event to the slots of those who are left behind and to no
other (`removeStale_slot`). `Reclaimed` says what is left of a registry and what is reported of it, and
`removeStale_is_exact` that this is so.
-/

namespace SharedVariables

open Finset

theorem countP_eq_card {α : Type} {n : Nat} (p : α → Bool) (v : Vector α n) :
    v.countP p = #{i : Fin n | p (v.get i) = true} := by
  have found (i : Fin n) : (p ∘ v.get) i = decide (p (v.get i) = true) := Bool.decide_eq_true.symm
  rw [← Vector.countP_toList, toList_eq_map, List.countP_map, List.countP_eq_length_filter, funext found]
  rfl

namespace Row

variable {row : Row} {which : Partner → Bool} {side : Side}

/-- If only one partner has to leave, the row is what its retract makes of it. -/
theorem Sound.ridOf_of_only (h : row.Sound) (present : (row.partner side).Present)
    (found : which (row.partner side) = true)
    (only : (row.partner side.other).Present → which (row.partner side.other) = false) :
    row.ridOf which = row.retracted side := by
  have hs : row.sideWith which = some side := by
    cases side with
    | offering => exact if_pos ⟨present, found⟩
    | accepting =>
      have stays : ¬(row.offering.Present ∧ which row.offering = true) :=
        fun ⟨present, found⟩ => Bool.false_ne_true ((only present).symm.trans found)
      have here : row.accepting.Present ∧ which row.accepting = true := ⟨present, found⟩
      rw [sideWith, if_neg stays, if_pos here]
  by_cases other : (row.partner side.other).Present
  · exact ridOf_of_one hs other (only other)
  · rcases h.retracted_cases present with ⟨-, gone⟩ | ⟨remains, -⟩
    · rw [gone, ridOf_of_all hs fun present => absurd present other]
    · exact absurd remains other

/-- If all partners have to leave, nothing is left of the row. -/
theorem Sound.ridOf_of_everybody (h : row.Sound)
    (all : ∀ side, (row.partner side).Present → which (row.partner side) = true) :
    row.ridOf which = .empty := by
  cases hs : row.sideWith which with
  | none =>
    rw [ridOf_of_none hs]
    refine h.free (by_contra fun used => ?_)
    have stays := sideWith_eq_none_iff.1 hs .offering (h.used used)
    rw [all .offering (h.used used)] at stays
    cases stays
  | some side => exact ridOf_of_all hs (all side.other)

end Row

namespace Registry

variable {r : Registry}

/-! ## Slots -/

theorem unregisterWhere_rows (which : Partner → Bool) :
    (r.unregisterWhere which).registry.rows = r.rows := rfl

theorem unregisterWhere_slot (which : Partner → Bool) (j : SlotIndex) :
    (r.unregisterWhere which).registry.slots.get j =
      if (r.slots.get j).Used ∧ which (r.slots.get j).partner = true then .empty else r.slots.get j := by
  simp only [unregisterWhere, get_map, Bool.and_eq_true, decide_eq_true_eq]

theorem unregisterWhere_value (which : Partner → Bool) :
    (r.unregisterWhere which).value =
      #{j : SlotIndex | (r.slots.get j).Used ∧ which (r.slots.get j).partner = true} := by
  simp only [unregisterWhere, countP_eq_card, Bool.and_eq_true, decide_eq_true_eq]

/-- If no processor has to go, nothing is done. -/
theorem unregisterWhere_idle {which : Partner → Bool}
    (none : ∀ j : SlotIndex, (r.slots.get j).Used → which (r.slots.get j).partner = false) :
    r.unregisterWhere which = r.unchanged 0 := by
  have nobody (j : SlotIndex) : ¬((r.slots.get j).Used ∧ which (r.slots.get j).partner = true) :=
    fun ⟨used, found⟩ => Bool.false_ne_true ((none j used).symm.trans found)
  have value : (r.unregisterWhere which).value = 0 := by
    rw [unregisterWhere_value, card_eq_zero, filter_eq_empty_iff]
    exact fun j _ => nobody j
  have slots : (r.unregisterWhere which).registry.slots = r.slots :=
    ext_get fun j => (unregisterWhere_slot which j).trans (if_neg (nobody j))
  simp only [unregisterWhere] at value slots
  simp only [unregisterWhere, unchanged, value, slots]

/-- Dead processors lose their slots; the others keep theirs, and those that are left behind are told. -/
theorem removeStale_slot (h : r.WellFormed) (alive : UInt32 → Bool) (j : SlotIndex) :
    (r.removeStale alive).registry.slots.get j =
      if (r.slots.get j).Used ∧ alive (r.slots.get j).partner.pid = true then
        { r.slots.get j with
          events := (r.slots.get j).events.union
            (Event.offerRetracted.when (r.LeavesBehind (!alive ·.pid) (r.slots.get j).partner.id)) }
      else .empty := by
  have cleared : (r.unregisterWhere (!alive ·.pid)).registry.WellFormed := h.unregisterWhere (!alive ·)
  have slot := unregisterWhere_slot (r := r) (!alive ·.pid) j
  simp only [Bool.not_eq_true'] at slot
  have recorded := sweep_records (finds_leavingDead alive) (findsFirst_leavingDead alive) Nat.zero_lt_two
    cleared
  rw [← removeStale_registry] at recorded
  have partner := recorded.partner j
  split
  · rename_i live
    have same : (r.unregisterWhere (!alive ·.pid)).registry.slots.get j = r.slots.get j :=
      slot.trans (if_neg fun dead => Bool.false_ne_true (dead.2.symm.trans live.2))
    have events := recorded.events j (r.slots.get j).partner.id (by rw [same]; exact ⟨live.1, rfl⟩)
    rw [same] at partner events
    generalize (r.removeStale alive).registry.slots.get j = slot' at partner events ⊢
    obtain ⟨partner', events'⟩ := slot'
    exact congrArg₂ Slot.mk partner events
  · rename_i dead
    refine (h.removeStale alive).slots.unused j fun used => ?_
    rw [Slot.Used, partner, slot] at used
    split at used
    · exact Partner.not_present_empty used
    · rename_i stays
      exact dead ⟨used, Bool.of_not_eq_false fun dies => stays ⟨used, dies⟩⟩

/-! ## Reclamations -/

/-- The way of a reclamation that ends with the outcome `o`, without a bound on how often a row is looked
at. -/
def Reclaims (r : Registry) (alive : UInt32 → Bool) (o : Outcome ReclaimReport) : Prop :=
  ∃ swept, Sweeps (leavingDead alive) (List.finRange rowCapacity)
      ((r.unregisterWhere (!alive ·.pid)).registry.unchanged 0) swept ∧
    o = (r.unregisterWhere (!alive ·.pid)).andThen fun processors _ => swept.map (⟨processors, ·⟩)

/-- What a reclamation does to a registry, and what it reports of it. -/
structure Reclaimed (r : Registry) (alive : UInt32 → Bool) (o : Outcome ReclaimReport) : Prop where
  /-- The processors that are still registered live. -/
  slots : ∀ j : SlotIndex, (o.registry.slots.get j).Used →
    alive (o.registry.slots.get j).partner.pid = true
  /-- A slot whose processor lives, or that has none, is as it was but for events. -/
  kept : ∀ j : SlotIndex, ((r.slots.get j).Used → alive (r.slots.get j).partner.pid = true) →
    ∃ events, o.registry.slots.get j =
      { r.slots.get j with events := (r.slots.get j).events.union events }
  rows : r.RidOf (!alive ·.pid) o.registry
  /-- A row with one dead partner ends as if that partner had retracted. -/
  one : ∀ (i : RowIndex) (side : Side), ((r.rows.get i).partner side).Present →
    alive ((r.rows.get i).partner side).pid = false →
    (((r.rows.get i).partner side.other).Present →
      alive ((r.rows.get i).partner side.other).pid = true) →
    o.registry.rows.get i =
      (r.retract (r.rows.get i).key ((r.rows.get i).partner side).id).registry.rows.get i
  /-- A row without a partner that lives ends free. -/
  free : ∀ i : RowIndex, (∀ side, ((r.rows.get i).partner side).Present →
    alive ((r.rows.get i).partner side).pid = false) → (o.registry.rows.get i).Free
  processors : o.value.processors =
    #{j : SlotIndex | (r.slots.get j).Used ∧ alive (r.slots.get j).partner.pid = false}
  sides : o.value.sides = ∑ i : RowIndex, (r.rows.get i).countSides (!alive ·.pid)

theorem removeStale_reclaims (h : r.WellFormed) (alive : UInt32 → Bool) :
    r.Reclaimed alive (r.removeStale alive) := by
  have s := searches_leavingDead alive
  have cleared : (r.unregisterWhere (!alive ·.pid)).registry.WellFormed := h.unregisterWhere (!alive ·)
  have rows : (r.removeStale alive).registry.rows = r.rows.map (·.ridOf (!alive ·.pid)) := by
    rw [removeStale_registry, sweep_rows s cleared, unregisterWhere_rows]
  refine ⟨fun j used => ?_, fun j lives => ?_, ?_, fun i side present dead only => ?_, fun i all => ?_,
    ?_, ?_⟩
  · rw [removeStale_slot h] at used ⊢
    split at used
    · rename_i live
      rw [if_pos live]
      exact live.2
    · exact absurd used Partner.not_present_empty
  · rw [removeStale_slot h]
    split
    · exact ⟨_, rfl⟩
    · rename_i dead
      have unused : ¬(r.slots.get j).Used := fun used => dead ⟨used, lives used⟩
      rw [h.slots.unused j unused]
      exact ⟨.none, rfl⟩
  · have rid := sweep_ridOf s cleared
    rw [← removeStale_registry] at rid
    exact ⟨rid.gone, rid.others⟩
  · rw [retract_row h present, if_pos rfl, rows, get_map]
    refine (h.rows.sound i).ridOf_of_only present ?_ fun other => ?_
    · simp only [dead, Bool.not_false]
    · simp only [only other, Bool.not_true]
  · rw [rows, get_map, (h.rows.sound i).ridOf_of_everybody fun side present => ?_]
    · rfl
    · simp only [all side present, Bool.not_false]
  · have counted := unregisterWhere_value (r := r) (!alive ·.pid)
    simp only [Bool.not_eq_true'] at counted
    simpa only [removeStale, Outcome.andThen, Outcome.map] using counted
  · have counted := sweep_value s cleared
    rw [unregisterWhere_rows] at counted
    simpa only [removeStale, Outcome.andThen, Outcome.map] using counted

/-- What there was to reclaim has been reclaimed the first time. -/
theorem removeStale_again (h : r.WellFormed) (alive : UInt32 → Bool) :
    let r' := (r.removeStale alive).registry
    r'.removeStale alive = r'.unchanged ⟨0, 0⟩ := by
  intro r'
  have done := removeStale_reclaims h alive
  have idle : r'.unregisterWhere (!alive ·.pid) = r'.unchanged 0 :=
    unregisterWhere_idle fun j used => by rw [done.slots j used, Bool.not_true]
  have none (i : RowIndex) : leavingDead alive (r'.rows.get i) = Option.none :=
    ((searches_leavingDead alive).eq_none_iff ((h.removeStale alive).rows.sound i)).2
      (Row.sideWith_eq_none_iff.2 (done.rows.gone i))
  simp only [removeStale, idle, Outcome.andThen, unchanged, sweep_idle 2 none, Outcome.map,
    List.append_nil]

/-- Whoever has died, a reclamation comes to an end; it removes what dead processes hold, all of it and
nothing else, and counts it. The second time there is nothing to do. -/
theorem removeStale_is_exact (h : r.Reachable) (alive : UInt32 → Bool) :
    let o := r.removeStale alive
    (∀ o', r.Reclaims alive o' ↔ o' = o) ∧ r.Reclaimed alive o ∧
      o.registry.removeStale alive = o.registry.unchanged ⟨0, 0⟩ := by
  have well := h.wellFormed
  have cleared : (r.unregisterWhere (!alive ·.pid)).registry.WellFormed :=
    well.unregisterWhere (!alive ·)
  refine ⟨fun o' => ?_, removeStale_reclaims well alive, removeStale_again well alive⟩
  simp only [Reclaims, sweeps_iff (searches_leavingDead alive) cleared, exists_eq_left, removeStale,
    Outcome.andThen]

/-- A process dies that has registered one processor, shares one variable with another process and offers
one. -/
theorem removeStale_is_exact_of_three :
    let a := Partner.ofProcess (.single 1001) 10 0
    let b := Partner.ofProcess (.single 1002) 20 0
    let c := Partner.ofProcess (.single 1003) 10 0
    let level := Name.ofText "LEVEL"
    let r := empty.run [.registerProcessor a.id 10 0, .registerProcessor b.id 20 0,
      .matchOrMake level .general a, .matchOrMake level a.id b,
      .matchOrMake (Name.ofText "STATE") .general c]
    let o := r.removeStale (· ≠ 10)
    o.value.processors = 1 ∧ o.value.sides = 2 ∧
      o.registry.rows.get 0 = (r.retract (r.rows.get 0).key a.id).registry.rows.get 0 ∧
      (o.registry.rows.get 1).Free ∧ o.registry.removeStale (· ≠ 10) = o.registry.unchanged ⟨0, 0⟩ := by
  intro a b c level r o
  obtain ⟨-, done, again⟩ := removeStale_is_exact (r := r) ⟨_, rfl⟩ (· ≠ 10)
  have row : ((r.rows.get 0).partner .offering).Present ∧
      ((r.rows.get 0).partner .offering).id = a.id ∧ ((r.rows.get 0).partner .offering).pid = 10 ∧
      ((r.rows.get 0).partner .accepting).pid = 20 := by decide +kernel
  obtain ⟨present, first, dead, lives⟩ := row
  have one := done.one 0 .offering present (decide_eq_false (not_not_intro dead)) fun _ =>
    decide_eq_true (lives.trans_ne (by decide))
  rw [first] at one
  refine ⟨done.processors.trans (by decide +kernel), done.sides.trans (by decide +kernel), one,
    done.free 1 ?_, again⟩
  have all : ∀ side ∈ [Side.offering, .accepting], ((r.rows.get 1).partner side).Present →
      ((r.rows.get 1).partner side).pid = 10 := by decide +kernel
  exact fun side present => decide_eq_false (not_not_intro (all side (by cases side <;> decide) present))

end Registry

end SharedVariables
