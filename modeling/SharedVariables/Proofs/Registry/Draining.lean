import SharedVariables.Proofs.Registry.KeyReuse
import SharedVariables.Proofs.Registry.Pending

/-!
# Reading all events

A processor that wants to know what has happened to which of its variables asks for its events and removes
the mark on the variable that it is told of, again and again, until it is told of none (`Drains`). A turn
removes the first of its marks and no other one (`clearEvent_first`), and leaves alone what belongs to other
processors (`clearEvent_spares`). So the loop ends, by induction on the marks that are left
(`exists_drains`), and has met every marked variable once (`draining_meets_every_marked_variable_once`).
-/

namespace SharedVariables

namespace Row

variable {row : Row} {id : ProcessorId}

theorem Sound.not_free_of_hasEvent (h : row.Sound) (marked : row.hasEvent id = true) : ¬row.Free := by
  intro free
  rw [h.hasEvent_of_free free] at marked
  cases marked

theorem clearEvent_of_not_hasEvent (unmarked : row.hasEvent id = false) : row.clearEvent id = row := by
  rw [hasEvent] at unmarked
  rw [clearEvent]
  cases hs : row.sideOf id with
  | none => rfl
  | some side =>
    simp only [hs] at unmarked
    have same : (row.partner side).withEvent false = row.partner side := by
      rw [Partner.withEvent, ← unmarked]
    simp only [same]
    cases side <;> rfl

end Row

namespace Registry

/-- The processor `id` asks for its events and removes the mark on the variable that it is told of, until
it is told of none. The registries in `asked` are those that it asks before, one in each turn. -/
inductive Drains (id : ProcessorId) : Registry → List Registry → Registry → Prop
  | done {r : Registry} (none : (r.getEvents id).1.IsNone) : Drains id r [] r
  | turn {r final : Registry} {asked : List Registry} (named : ¬(r.getEvents id).1.IsNone)
      (rest : Drains id (r.clearEvent (r.getEvents id).1 id).registry asked final) :
    Drains id r (r :: asked) final

/-- The variables on which a side of the processor `id` is marked, in table order. -/
def markedKeys (r : Registry) (id : ProcessorId) : List Key :=
  (r.usedRows.filter (·.hasEvent id)).map Row.key

/-- The places of these variables. -/
def markedAt (r : Registry) (id : ProcessorId) : List RowIndex :=
  (List.finRange rowCapacity).filter fun i => (r.rows.get i).hasEvent id

/-- Nothing has changed for anybody but the processor `id`, and for that one only what it has to be told. -/
structure SparesOthers (r : Registry) (id : ProcessorId) (r' : Registry) : Prop where
  bare : ∀ i : RowIndex, (r'.rows.get i).bare = (r.rows.get i).bare
  state : ∀ i : RowIndex, (r'.rows.get i).stateCode = (r.rows.get i).stateCode
  sides : ∀ (i : RowIndex) (side : Side),
    ¬(((r.rows.get i).partner side).Present ∧ ((r.rows.get i).partner side).id = id) →
    (r'.rows.get i).partner side = (r.rows.get i).partner side
  holders : ∀ j : SlotIndex, (r'.slots.get j).partner = (r.slots.get j).partner
  slots : ∀ j : SlotIndex, ¬(r.slots.get j).Holds id → r'.slots.get j = r.slots.get j

variable {r r' r'' : Registry} {id : ProcessorId} {key : Key} {i : RowIndex} {rest : List RowIndex}

theorem Drains.unique {asked asked' : List Registry} {final final' : Registry}
    (h : Drains id r asked final) (h' : Drains id r asked' final') : asked' = asked ∧ final' = final := by
  induction h generalizing asked' with
  | done none =>
    cases h' with
    | done => exact ⟨rfl, rfl⟩
    | turn named => exact absurd none named
  | turn named _ ih =>
    cases h' with
    | done none => exact absurd none named
    | turn _ rest' =>
      obtain ⟨rfl, rfl⟩ := ih rest'
      exact ⟨rfl, rfl⟩

/-- In the end no variable is named. -/
theorem Drains.named_none {asked : List Registry} {final : Registry} (h : Drains id r asked final) :
    (final.getEvents id).1 = .none := by
  induction h with
  | done none => exact none
  | turn _ _ ih => exact ih

namespace SparesOthers

theorem refl (r : Registry) (id : ProcessorId) : r.SparesOthers id r :=
  ⟨fun _ => rfl, fun _ => rfl, fun _ _ _ => rfl, fun _ => rfl, fun _ _ => rfl⟩

theorem trans (h : r.SparesOthers id r') (h' : r'.SparesOthers id r'') : r.SparesOthers id r'' where
  bare i := (h'.bare i).trans (h.bare i)
  state i := (h'.state i).trans (h.state i)
  sides i side other := by
    refine (h'.sides i side ?_).trans (h.sides i side other)
    rwa [Row.present_of_bare (h.bare i), Row.id_of_bare (h.bare i)]
  holders j := (h'.holders j).trans (h.holders j)
  slots j other := by
    refine (h'.slots j ?_).trans (h.slots j other)
    rwa [Slot.Holds, Slot.Used, h.holders]

end SparesOthers

/-! ## Marks, in table order -/

theorem markedKeys_eq_map (rows : RowsSound r.rows) (id : ProcessorId) :
    r.markedKeys id = (r.markedAt id).map fun i => (r.rows.get i).key := by
  have used (i : RowIndex) : ((r.rows.get i).hasEvent id && !decide (r.rows.get i).Free) =
      (r.rows.get i).hasEvent id := by
    by_cases free : (r.rows.get i).Free
    · rw [(rows.sound i).hasEvent_of_free free, Bool.false_and]
    · simp only [free, decide_false, Bool.not_false, Bool.and_true]
  rw [markedKeys, usedRows, toList_eq_map, List.filter_filter, List.filter_map, List.map_map, markedAt]
  refine congrArg (List.map _) (List.filter_congr fun i _ => ?_)
  exact used i

theorem mem_markedAt : i ∈ r.markedAt id ↔ (r.rows.get i).hasEvent id = true := by
  simp only [markedAt, List.mem_filter, List.mem_finRange, true_and]

theorem markedAt_eq_nil_iff : r.markedAt id = [] ↔ ¬r.Flagged id := by
  simp only [List.eq_nil_iff_forall_not_mem, mem_markedAt, Flagged, not_exists]

theorem markedKeys_eq_nil_iff (rows : RowsSound r.rows) : r.markedKeys id = [] ↔ ¬r.Flagged id := by
  rw [markedKeys_eq_map rows, List.map_eq_nil_iff, markedAt_eq_nil_iff]

theorem nodup_markedAt (r : Registry) (id : ProcessorId) : (r.markedAt id).Nodup :=
  (List.nodup_finRange _).filter _

/-- Two variables have different keys. -/
theorem nodup_markedKeys (rows : RowsSound r.rows) (id : ProcessorId) : (r.markedKeys id).Nodup := by
  rw [markedKeys_eq_map rows]
  refine (nodup_markedAt r id).map_on fun i hi j _ same => ?_
  exact rows.keys i j ((rows.sound i).not_free_of_hasEvent (mem_markedAt.1 hi)) same

/-- The processor is told of the first variable on which it is marked. -/
theorem firstMarked_of_markedAt (rows : RowsSound r.rows) (marked : r.markedAt id = i :: rest) :
    r.firstMarked id = (r.rows.get i).key ∧ ¬(r.rows.get i).Free := by
  have event : (r.rows.get i).hasEvent id = true := mem_markedAt.1 (marked ▸ List.mem_cons_self)
  have used : ¬(r.rows.get i).Free := (rows.sound i).not_free_of_hasEvent event
  have order : (i :: rest).Pairwise (· < ·) := marked ▸ (List.pairwise_lt_finRange _).filter _
  have first : first? r.rows (fun row => !decide row.Free && row.hasEvent id) = some i := by
    refine first?_eq_some_iff.2 ⟨by simp only [used, event, decide_false]; rfl, fun j before => ?_⟩
    have unmarked : (r.rows.get j).hasEvent id = false := by
      rw [Bool.eq_false_iff]
      intro event
      have listed : j ∈ i :: rest := marked ▸ mem_markedAt.2 event
      rcases List.mem_cons.1 listed with rfl | later
      · exact lt_irrefl _ before
      · exact lt_asymm before (List.rel_of_pairwise_cons order later)
    rw [unmarked, Bool.and_false]
  simp only [firstMarked, first]
  exact ⟨trivial, used⟩

/-! ## One turn -/

theorem clearEvent_rows (found : r.findVar key = some i) (id : ProcessorId) :
    (r.clearEvent key id).registry.rows = put r.rows i ((r.rows.get i).clearEvent id) := by
  simp only [clearEvent, found]
  split
  · exact emptySlotEvents_rows id
  · rfl

/-- The removal of a mark changes nothing for other processors. -/
theorem clearEvent_spares (h : r.WellFormed) (found : r.findVar key = some i) (id : ProcessorId) :
    r.SparesOthers id (r.clearEvent key id).registry := by
  have e : Evolves (fun _ => False) (fun _ => False) r (r.clearEvent key id).registry :=
    clearEvent_evolves r key id
  refine ⟨fun j => (e.flags j).1, fun j => (e.flags j).2, fun j side other => ?_, fun j => ?_,
    fun j other => ?_⟩
  · rw [clearEvent_rows found, get_put]
    split
    · rename_i hij
      subst hij
      rw [(h.rows.sound i).partner_clearEvent, if_neg other]
    · rfl
  · rw [clearEvent_slot h]
    split <;> rfl
  · rw [clearEvent_slot h, if_neg fun own => other own.1]

/-- A turn removes the first mark of the processor and no other one. -/
theorem clearEvent_first (h : r.WellFormed) (marked : r.markedAt id = i :: rest) :
    r.findVar (r.getEvents id).1 = some i ∧
      (r.clearEvent (r.getEvents id).1 id).registry.markedAt id = rest := by
  obtain ⟨first, used⟩ := firstMarked_of_markedAt h.rows marked
  have found : r.findVar (r.getEvents id).1 = some i := by
    rw [getEvents, first]
    exact h.findVar_key used
  refine ⟨found, ?_⟩
  have hasEvent (j : RowIndex) :
      ((r.clearEvent (r.getEvents id).1 id).registry.rows.get j).hasEvent id =
        (decide (j ≠ i) && (r.rows.get j).hasEvent id) := by
    rw [clearEvent_rows found, get_put]
    split
    · rename_i hij
      rw [Row.hasEvent_clearEvent, decide_eq_false (not_not_intro hij.symm), Bool.false_and]
    · rename_i hij
      rw [decide_eq_true (Ne.symm hij), Bool.true_and]
  have once : i ∉ rest := (List.nodup_cons.1 (marked ▸ nodup_markedAt r id)).1
  calc (r.clearEvent (r.getEvents id).1 id).registry.markedAt id
      = (r.markedAt id).filter (· ≠ i) := by simp only [markedAt, hasEvent, List.filter_filter]
    _ = rest.filter (· ≠ i) := by rw [marked, List.filter_cons_of_neg (by simp)]
    _ = rest := List.filter_eq_self.2 fun j hj => decide_eq_true (ne_of_mem_of_not_mem hj once)

/-! ## All turns -/

/-- No side of the processor `id` is marked any more, and if one was then its events are forgotten. -/
structure Drained (r : Registry) (id : ProcessorId) (r' : Registry) : Prop where
  seq : r'.seq = r.seq
  rows : ∀ j : RowIndex, r'.rows.get j = (r.rows.get j).clearEvent id
  slots : ∀ j : SlotIndex, r'.slots.get j =
    if (r.slots.get j).Holds id ∧ r.Flagged id then { r.slots.get j with events := .none }
    else r.slots.get j

namespace Drained

theorem of_unmarked (unmarked : ¬r.Flagged id) : r.Drained id r where
  seq := rfl
  rows j := by
    have here : (r.rows.get j).hasEvent id = false := by
      rw [Bool.eq_false_iff]
      exact fun marked => unmarked ⟨j, marked⟩
    exact (Row.clearEvent_of_not_hasEvent here).symm
  slots j := by rw [if_neg fun own => unmarked own.2]

/-- The first mark is removed, and then the others. -/
theorem cons (h : r.WellFormed) (marked : r.Flagged id) (found : r.findVar key = some i)
    (later : (r.clearEvent key id).registry.Drained id r') : r.Drained id r' where
  seq := later.seq.trans (clearEvent_seq key id)
  rows j := by
    rw [later.rows, clearEvent_rows found, get_put]
    split
    · rename_i hij
      rw [Row.clearEvent_of_not_hasEvent (Row.hasEvent_clearEvent ..), hij]
    · rfl
  slots j := by
    rw [later.slots, clearEvent_slot h]
    by_cases own : (r.slots.get j).Holds id
    · by_cases left : (r.clearEvent key id).registry.Flagged id
      · simp only [own, left, marked, not_true_eq_false, and_false, and_true, ↓reduceIte]
      · simp only [own, left, marked, not_false_eq_true, and_true, and_false, ↓reduceIte]
    · simp only [own, false_and, ↓reduceIte]

/-- To remove all marks of a processor one after the other is to forget all its events at once. -/
theorem eq_clearAllEvents (h : r.WellFormed) (drained : r.Drained id r') (marked : r.Flagged id) :
    r' = (r.clearAllEvents id).registry := by
  refine eq_of_tables ?_ (ext_get fun j => ?_) (ext_get fun j => ?_)
  · rw [drained.seq]
    exact (emptySlotEvents_seq id).symm
  · rw [drained.rows, clearAllEvents_row_eq h.rows]
  · rw [drained.slots, (clearAllEvents_forgets h id).slots]
    simp only [marked, and_true]

end Drained

/-- As long as there are marks left, no event is forgotten. -/
theorem pendingEvents_clearEvent (h : r.WellFormed) (left : (r.clearEvent key id).registry.Flagged id) :
    (r.clearEvent key id).registry.pendingEvents id = r.pendingEvents id := by
  have slots : (r.clearEvent key id).registry.slots = r.slots := ext_get fun j => by
    rw [clearEvent_slot h, if_neg fun own => own.2 left]
  simp only [pendingEvents, getSlot, findSlot, slots]

theorem exists_drains (h : r.WellFormed) {places : List RowIndex} (marked : r.markedAt id = places) :
    ∃ asked final, Drains id r asked final ∧
      asked.map (·.getEvents id) =
        places.map (fun i => ((r.rows.get i).key, r.pendingEvents id)) ∧
      r.Drained id final ∧ ∀ s ∈ asked ++ [final], r.SparesOthers id s := by
  induction places generalizing r with
  | nil =>
    have unmarked : ¬r.Flagged id := markedAt_eq_nil_iff.1 marked
    refine ⟨[], r, .done ((firstMarked_isNone_iff h.rows).2 unmarked), rfl, .of_unmarked unmarked, ?_⟩
    simp only [List.nil_append, List.mem_singleton, forall_eq]
    exact .refl r id
  | cons i rest ih =>
    have flagged : r.Flagged id := ⟨i, mem_markedAt.1 (marked ▸ List.mem_cons_self)⟩
    obtain ⟨first, used⟩ := firstMarked_of_markedAt h.rows marked
    have events : r.getEvents id = ((r.rows.get i).key, r.pendingEvents id) := Prod.ext first rfl
    have named : ¬(r.getEvents id).1.IsNone := by rwa [events]
    obtain ⟨found, left⟩ := clearEvent_first h marked
    have spares := clearEvent_spares h found id
    obtain ⟨asked, final, drains, met, drained, spared⟩ := ih (h.perform (.clearEvent _ id)) left
    refine ⟨r :: asked, final, .turn named drains, ?_, .cons h flagged found drained, ?_⟩
    · rw [List.map_cons, List.map_cons, events]
      refine congrArg _ (met.trans (List.map_congr_left fun j hj => ?_))
      have marks_left : (r.clearEvent (r.getEvents id).1 id).registry.Flagged id :=
        ⟨j, mem_markedAt.1 (left ▸ hj)⟩
      exact Prod.ext (Row.key_of_bare (spares.bare j)) (pendingEvents_clearEvent h marks_left)
    · intro s hs
      rcases List.mem_cons.1 hs with rfl | later
      · exact .refl _ id
      · exact spares.trans (spared s later)

theorem Drained.pendingEvents (drained : r.Drained id r') (marked : r.Flagged id) :
    r'.pendingEvents id = .none := by
  simp only [Registry.pendingEvents, getSlot]
  cases hj : r'.findSlot id with
  | none => rfl
  | some j =>
    have held := findSlot_eq_some hj
    simp only [Option.map_some]
    rw [drained.slots] at held ⊢
    split at held
    · rename_i own
      rw [if_pos own]
    · rename_i other
      exact absurd ⟨held, marked⟩ other

/-- To read all events is to meet every marked variable once. A processor asks for its events and removes the
mark on the variable that it is told of, until it is told of none. Whatever has happened to the registry
before, this comes to an end, and there is one way for it to go: the processor is told of those variables on
which a side of it is marked, of each of them once, in table order, and every time of the same events. Then
it is told of no variable, and of no events if there was a mark, and the registry is what it would be if all
its events had been forgotten at once. At no time has anything changed for another processor. -/
theorem draining_meets_every_marked_variable_once (reachable : r.Reachable) (id : ProcessorId) :
    ∃ asked final, (∀ asked' final', Drains id r asked' final' ↔ asked' = asked ∧ final' = final) ∧
      (r.markedKeys id).Nodup ∧
      asked.map (·.getEvents id) = (r.markedKeys id).map (·, r.pendingEvents id) ∧
      final.getEvents id = (.none, if r.markedKeys id = [] then r.pendingEvents id else .none) ∧
      final = (if r.markedKeys id = [] then r else (r.clearAllEvents id).registry) ∧
      ∀ s ∈ asked ++ [final], r.SparesOthers id s := by
  obtain ⟨ops, rfl⟩ := reachable
  have well : (empty.run ops).WellFormed := run_empty_wellFormed ops
  generalize empty.run ops = r at well ⊢
  obtain ⟨asked, final, drains, met, drained, spared⟩ :=
    exists_drains well (rfl : r.markedAt id = r.markedAt id)
  have known : r.markedKeys id = (r.markedAt id).map fun i => (r.rows.get i).key :=
    markedKeys_eq_map well.rows id
  have none : r.markedKeys id = [] ↔ ¬r.Flagged id := markedKeys_eq_nil_iff well.rows
  have all : final = if r.markedKeys id = [] then r else (r.clearAllEvents id).registry := by
    split
    · rename_i unmarked
      have stop : (r.getEvents id).1.IsNone := (firstMarked_isNone_iff well.rows).2 (none.1 unmarked)
      exact (drains.unique (.done stop)).2.symm
    · rename_i marked
      exact drained.eq_clearAllEvents well (not_not.1 (mt none.2 marked))
  have events : final.pendingEvents id =
      if r.markedKeys id = [] then r.pendingEvents id else .none := by
    split
    · rename_i unmarked
      rw [all, if_pos unmarked]
    · rename_i marked
      exact drained.pendingEvents (not_not.1 (mt none.2 marked))
  refine ⟨asked, final, fun asked' final' => ⟨drains.unique, ?_⟩, nodup_markedKeys well.rows id, ?_,
    Prod.ext drains.named_none events, all, spared⟩
  · rintro ⟨rfl, rfl⟩
    exact drains
  · rw [met, known, List.map_map]
    rfl

/-- A processor has made one offer and taken up another. Its own offer has been taken up, and the other
variable restricted by the partner there: it is told of both variables, and has read all events then. -/
theorem draining_meets_every_marked_variable_once_of_two :
    let a := Partner.ofProcess (.single 1001) 10 5001
    let b := Partner.ofProcess (.single 1002) 20 5002
    let level := Name.ofText "LEVEL"
    let rate := Name.ofText "RATE"
    let ops := [Operation.registerProcessor b.id b.pid b.port, .matchOrMake level .general a,
      .matchOrMake level a.id b, .matchOrMake rate .general b, .matchOrMake rate b.id a]
    let key := ((empty.run ops).rows.get 0).key
    let key' := ((empty.run ops).rows.get 1).key
    let r := empty.run (ops ++ [.setControl key a.id .setByMe])
    let events := Event.offerMatched.union .accessControlChanged
    ∃ asked final, Drains b.id r asked final ∧
      asked.map (·.getEvents b.id) = [(key, events), (key', events)] ∧
      final.getEvents b.id = (.none, .none) := by
  intro a b level rate ops key key' r events
  have marked : r.markedKeys b.id = [key, key'] := by decide +kernel
  have pending : r.pendingEvents b.id = events := by decide +kernel
  obtain ⟨asked, final, drains, -, met, ends, -, -⟩ :=
    draining_meets_every_marked_variable_once ⟨_, rfl⟩ b.id (r := r)
  rw [marked, pending] at met
  rw [marked] at ends
  exact ⟨asked, final, (drains asked final).2 ⟨rfl, rfl⟩, met, ends⟩

end Registry

end SharedVariables
