import SharedVariables.Proofs.Registry.Step

/-!
# Who holds what

`Registry.BelongsTo P` says that every side of a row and every registration is that of a processor
that satisfies `P`. Steps that are done for such processors alone keep it (`BelongsTo.evolves`), and
a registration lasts through steps that are not done for its processor (`isRegistered_of_evolves`).
-/

namespace SharedVariables

open Relation

/-! ## Sides -/

/-- Whether only processors that satisfy `P` are sides of rows. -/
def HoldSides (P : ProcessorId → Prop) (rows : Vector Row rowCapacity) : Prop :=
  ∀ (i : RowIndex) (side : Side), ((rows.get i).partner side).Present →
    P ((rows.get i).partner side).id

namespace HoldSides

variable {who P : ProcessorId → Prop} {rows rows' : Vector Row rowCapacity}

theorem set (h : HoldSides P rows) (i : RowIndex) {row : Row}
    (hi : ∀ side, (row.partner side).Present → P (row.partner side).id) :
    HoldSides P (put rows i row) := by
  intro j side
  rw [get_put]
  split
  · exact hi side
  · exact h j side

/-- Whoever is a side after a step was one before, or the step is done for it. -/
theorem step (h : HoldSides P rows) (hw : ∀ id, who id → P id) (s : RowStep who rows rows') :
    HoldSides P rows' := by
  have of_bare {i : RowIndex} {row : Row} (hb : row.bare = (rows.get i).bare) (side : Side)
      (hp : (row.partner side).Present) : P (row.partner side).id := by
    rw [Row.id_of_bare hb]
    exact h i side ((Row.present_of_bare hb side).1 hp)
  cases s with
  | mark i side => exact h.set i (of_bare (Row.bare_markEvent ..))
  | unmark i id => exact h.set i (of_bare (Row.bare_clearEvent ..))
  | restrict i side control => exact h.set i (of_bare (Row.bare_withControl ..))
  | access i side state => exact h.set i (of_bare (Row.bare_withState ..))
  | accept i name addressee p _ acts =>
    refine h.set i fun side hp => ?_
    cases side with
    | offering => exact h i .offering hp
    | accepting => exact hw _ acts
  | offer i key name addressee p told _ _ acts =>
    refine h.set i fun side hp => ?_
    cases side with
    | offering => exact hw _ acts
    | accepting => exact absurd rfl hp.1
  | leave i left =>
    refine h.set i fun side hp => ?_
    obtain ⟨side', hs⟩ := Row.partner_leave hp
    rw [← hs] at hp ⊢
    exact h i side' hp

theorem steps (h : HoldSides P rows) (hw : ∀ id, who id → P id)
    (s : ReflTransGen (RowStep who) rows rows') : HoldSides P rows' := by
  induction s with
  | refl => exact h
  | tail _ s ih => exact ih.step hw s

end HoldSides

/-! ## Registrations -/

/-- Whether only processors that satisfy `P` are registered. -/
def HoldSlots (P : ProcessorId → Prop) (slots : Vector Slot slotCapacity) : Prop :=
  ∀ i : SlotIndex, (slots.get i).Used → P (slots.get i).partner.id

namespace HoldSlots

variable {who P : ProcessorId → Prop} {slots slots' : Vector Slot slotCapacity}

theorem set (h : HoldSlots P slots) (i : SlotIndex) {slot : Slot}
    (hi : slot.Used → P slot.partner.id) : HoldSlots P (put slots i slot) := by
  intro j
  rw [get_put]
  split
  · exact hi
  · exact h j

theorem step (h : HoldSlots P slots) (hw : ∀ id, who id → P id) (s : SlotStep who slots slots') :
    HoldSlots P slots' := by
  cases s with
  | record i => exact h.set i fun hu => h i hu
  | forget i => exact h.set i fun hu => h i hu
  | refresh i pid port used => exact h.set i fun _ => h i used
  | enroll i p _ _ acts => exact h.set i fun _ => hw _ acts
  | vacate i => exact h.set i fun hu => absurd hu Partner.not_present_empty

theorem steps (h : HoldSlots P slots) (hw : ∀ id, who id → P id)
    (s : ReflTransGen (SlotStep who) slots slots') : HoldSlots P slots' := by
  induction s with
  | refl => exact h
  | tail _ s ih => exact ih.step hw s

end HoldSlots

section Registered

variable {who : ProcessorId → Prop} {slots slots' : Vector Slot slotCapacity} {id : ProcessorId}

/-- A step that is not done for a processor leaves it registered: its slot is not replaced, or by one that
holds the processor too. -/
theorem registered_step (hw : ¬who id) (s : SlotStep who slots slots')
    (h : ∃ j : SlotIndex, (slots.get j).Holds id) : ∃ j : SlotIndex, (slots'.get j).Holds id := by
  obtain ⟨j, hj⟩ := h
  have kept {i : SlotIndex} {slot : Slot} (hi : i = j → slot.Holds id) :
      ∃ k : SlotIndex, ((put slots i slot).get k).Holds id := by
    refine ⟨j, ?_⟩
    rw [get_put]
    split
    · exact hi ‹_›
    · exact hj
  cases s with
  | record i => exact kept fun hij => hij ▸ hj
  | forget i => exact kept fun hij => hij ▸ hj
  | refresh i pid port used acts named =>
    exact kept fun hij => ⟨⟨named, used.2⟩, by rw [← hij] at hj; exact hj.2⟩
  | enroll i p unused => exact kept fun hij => absurd (hij ▸ hj.1) unused
  | vacate i acts =>
    refine kept fun hij => absurd acts ?_
    rw [hij, hj.2]
    exact hw

theorem registered_steps (hw : ¬who id) (s : ReflTransGen (SlotStep who) slots slots')
    (h : ∃ j : SlotIndex, (slots.get j).Holds id) : ∃ j : SlotIndex, (slots'.get j).Holds id := by
  induction s with
  | refl => exact h
  | tail _ s ih => exact registered_step hw s ih

end Registered

namespace Registry

/-- Whether only processors that satisfy `P` are sides of rows or registered. -/
structure BelongsTo (r : Registry) (P : ProcessorId → Prop) : Prop where
  sides : HoldSides P r.rows
  slots : HoldSlots P r.slots

variable {shares enrolls P : ProcessorId → Prop} {r r' : Registry}

theorem empty_belongsTo (P : ProcessorId → Prop) : empty.BelongsTo P where
  sides i side hp := by
    rw [rows_empty] at hp
    exact absurd hp (Row.not_present_partner_empty side)
  slots i hu := by
    rw [slots_empty] at hu
    exact absurd hu Partner.not_present_empty

theorem BelongsTo.mono {Q : ProcessorId → Prop} (h : r.BelongsTo P) (hq : ∀ id, P id → Q id) :
    r.BelongsTo Q :=
  ⟨fun i side hp => hq _ (h.sides i side hp), fun i hu => hq _ (h.slots i hu)⟩

theorem BelongsTo.evolves (h : r.BelongsTo P) (hs : ∀ id, shares id → P id)
    (he : ∀ id, enrolls id → P id) (e : Evolves shares enrolls r r') : r'.BelongsTo P :=
  ⟨h.sides.steps hs e.rows, h.slots.steps he e.slots⟩

theorem isRegistered_iff {id : ProcessorId} :
    r.isRegistered id = true ↔ ∃ i : SlotIndex, (r.slots.get i).Holds id := by
  rw [isRegistered, ← not_iff_not, Bool.not_eq_true, Option.isSome_eq_false_iff,
    Option.isNone_iff_eq_none, findSlot_eq_none_iff, not_exists]

theorem isRegistered_of_evolves {id : ProcessorId} (he : ¬enrolls id)
    (e : Evolves shares enrolls r r') (h : r.isRegistered id = true) : r'.isRegistered id = true :=
  isRegistered_iff.2 (registered_steps he e.slots (isRegistered_iff.1 h))

end Registry

end SharedVariables
