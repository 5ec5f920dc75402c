import SharedVariables.Proofs.Registry.Holders
import SharedVariables.Proofs.Registry.WellFormed
import SharedVariables.Store

/-!
# A processor that leaves

`Row.without` is a row after a processor has left it: the processor is no side any more, and the
other partner keeps its own. Retracting a processor from all variables of a well-formed registry
takes it out of every row in this way and does nothing else to the rows (`retractAllBy_rows`), and
with its registration gone too nothing of it is left (`leave_rows`, `leave_not_isRegistered`).
-/

namespace SharedVariables

open Relation

namespace Row

/-- A row after a processor has left it. -/
def without (row : Row) (id : ProcessorId) : Row :=
  match row.sideOf id with
  | some side => row.retracted side
  | none => row

variable {row : Row} {id id' : ProcessorId} {side side' : Side}

theorem without_of_isSide (h : row.sideOf id = some side) :
    row.without id = row.retracted side := by
  simp only [without, h]

theorem without_of_not_isSide (h : row.sideOf id = none) : row.without id = row := by
  simp only [without, h]

/-- A sound row that somebody is a side of is offered or coupled; who leaves it is on the offering
side, or on one of two. -/
theorem Sound.leave_cases (h : row.Sound) (hs : row.sideOf id = some side) :
    (row.coupling = .offered ∧ row.leave side = .empty) ∨
      (row.coupling = .coupled ∧ (row.partner side.other).id ≠ id ∧
        row.leave side = { row with
          offering := row.partner side.other
          accepting := .target id
          stateCode := AccessState.notShared.code }) := by
  obtain ⟨hp, rfl⟩ := sideOf_eq_some hs
  cases hc : row.coupling with
  | none => exact absurd hc (h.coupling_ne_none (h.not_free_of_present hp))
  | offered =>
    rw [Sound.side_of_offered hc hp]
    exact .inl ⟨rfl, leave_of_offered hc⟩
  | coupled =>
    refine .inr ⟨rfl, ?_, leave_of_coupled hc side⟩
    cases side with
    | offering => exact Ne.symm (h.coupled hc).1
    | accepting => exact (h.coupled hc).1

theorem sideOf_without (h : row.Sound) (id : ProcessorId) : (row.without id).sideOf id = none := by
  cases hs : row.sideOf id with
  | none => rw [without_of_not_isSide hs, hs]
  | some side =>
    rw [without_of_isSide hs, sideOf_of_bare (bare_retracted ..)]
    rcases h.leave_cases hs with ⟨-, he⟩ | ⟨-, hne, he⟩
    · rw [he, sideOf_empty]
    · rw [he, ← Option.not_isSome_iff_eq_none, sideOf_isSome_iff]
      rintro ⟨side', hp, hi⟩
      cases side' with
      | offering => exact hne hi
      | accepting => exact Partner.not_present_target _ hp

/-- Another partner stays in the row, under the same key. -/
theorem partner_without (h : row.Sound) (hne : id' ≠ id) (hs : row.sideOf id' = some side') :
    ∃ kept, (row.without id).sideOf id' = some kept ∧ (row.without id).key = row.key ∧
      ((row.without id).partner kept).bare = (row.partner side').bare := by
  cases hid : row.sideOf id with
  | none =>
    rw [without_of_not_isSide hid]
    exact ⟨side', hs, rfl, rfl⟩
  | some side =>
    obtain ⟨hp, hi⟩ := sideOf_eq_some hid
    obtain ⟨hp', hi'⟩ := sideOf_eq_some hs
    have hside : side' = side.other := by
      have hdiff : side' ≠ side := fun he => hne (hi'.symm.trans (he ▸ hi))
      cases side <;> cases side' <;> first | rfl | exact absurd rfl hdiff
    subst hside
    have hb := bare_retracted row side
    have remains : row.leave side = { row with
        offering := row.partner side.other
        accepting := .target id
        stateCode := AccessState.notShared.code } := by
      rcases h.leave_cases hid with ⟨hc, -⟩ | ⟨-, -, he⟩
      · exact absurd (Sound.side_of_offered hc hp') (by rw [Sound.side_of_offered hc hp]; decide)
      · exact he
    refine ⟨.offering, ?_, ?_, ?_⟩ <;> rw [without_of_isSide hid]
    · rw [sideOf_of_bare hb, remains, sideOf, sideWith]
      exact if_pos ⟨hp', decide_eq_true hi'⟩
    · rw [key_of_bare hb, remains]
    · rw [partner_of_bare hb, remains]
      rfl

end Row

namespace Registry

variable {r : Registry} {id : ProcessorId}

/-! ## Retracting from all variables -/

theorem WellFormed.findVar_key (h : r.WellFormed) {i : RowIndex} (hf : ¬(r.rows.get i).Free) :
    r.findVar (r.rows.get i).key = some i := by
  cases hi : r.findVar (r.rows.get i).key with
  | none =>
    rcases findVar_eq_none_iff.1 hi with hn | hn
    · exact absurd hn hf
    · exact absurd rfl (hn i)
  | some j =>
    obtain ⟨hj, hk⟩ := findVar_eq_some hi
    rw [h.rows.keys j i hj hk]

/-- One step of the way through the table takes the processor out of one row. -/
theorem retractWhile_rows (h : r.WellFormed) (id : ProcessorId) (i : RowIndex) :
    (retractWhile (fun row => (row.sideOf id).map fun _ => id) i 1 r).registry.rows =
      put r.rows i ((r.rows.get i).without id) := by
  cases hs : (r.rows.get i).sideOf id with
  | none =>
    rw [Row.without_of_not_isSide hs, put_get]
    simp only [retractWhile, hs, Option.map_none]
    rfl
  | some side =>
    have hf := (h.rows.sound i).not_free_of_present (Row.sideOf_eq_some hs).1
    rw [Row.without_of_isSide hs, ← retractSide_rows side]
    simp only [retractWhile, hs, Option.map_some, Outcome.andThen, Outcome.map, unchanged,
      retract_eq_retractSide (h.findVar_key hf) hs]

/-- Retracting a processor from all variables takes it out of every row and changes no other row. -/
theorem retractAllBy_rows (h : r.WellFormed) (id : ProcessorId) :
    (r.retractAllBy id).registry.rows = r.rows.map (·.without id) := by
  refine ext_get fun j => ?_
  rw [get_map]
  refine sumRows_row (P := WellFormed) (f := fun row row' => row' = row.without id)
    (fun i r h => ?_) (fun i j r h hij => ?_) (fun i r h => ?_) h j
  · exact h.retractWhile _ i 1
  · rw [retractWhile_rows h, get_put, if_neg hij]
  · rw [retractWhile_rows h, get_put, if_pos rfl]

/-! ## Giving up the registration -/

theorem unregisterProcessor_not_isRegistered (h : r.WellFormed) (id : ProcessorId) :
    (r.unregisterProcessor id).registry.isRegistered id = false := by
  rw [← Bool.not_eq_true, isRegistered_iff]
  rintro ⟨j, hj⟩
  cases hi : r.findSlot id with
  | none =>
    simp only [unregisterProcessor, hi, unchanged] at hj
    exact findSlot_eq_none_iff.1 hi j hj
  | some i =>
    obtain ⟨used, hid⟩ := findSlot_eq_some hi
    have hslots : (r.unregisterProcessor id).registry.slots = put r.slots i .empty := by
      simp only [unregisterProcessor, hi]
      rfl
    rw [hslots, get_put] at hj
    split at hj
    · exact Partner.not_present_empty hj.1
    · rename_i hij
      exact hij (h.slots.ids i j used hj.1 (hid.trans hj.2.symm))

@[simp] theorem unregisterProcessor_rows (id : ProcessorId) :
    (r.unregisterProcessor id).registry.rows = r.rows := by
  simp only [unregisterProcessor]
  split <;> rfl

/-! ## Leaving -/

theorem leave_registry (id : ProcessorId) :
    (r.leave id).registry = ((r.retractAllBy id).registry.unregisterProcessor id).registry := by
  simp only [leave, Outcome.andThen, Outcome.map]

theorem leave_evolves (r : Registry) (id : ProcessorId) :
    Evolves (· = id) (· = id) r (r.leave id).registry := by
  rw [leave_registry]
  exact (retractAllBy_evolves r id).trans (unregisterProcessor_evolves _ id)

theorem leave_rows (h : r.WellFormed) (id : ProcessorId) :
    (r.leave id).registry.rows = r.rows.map (·.without id) := by
  rw [leave_registry, unregisterProcessor_rows, retractAllBy_rows h]

theorem leave_row (h : r.WellFormed) (id : ProcessorId) (i : RowIndex) :
    (r.leave id).registry.rows.get i = (r.rows.get i).without id := by
  rw [leave_rows h, get_map]

theorem leave_sideOf (h : r.WellFormed) (id : ProcessorId) (i : RowIndex) :
    ((r.leave id).registry.rows.get i).sideOf id = none := by
  rw [leave_row h, Row.sideOf_without (h.rows.sound i)]

theorem leave_not_isRegistered (h : r.WellFormed) (id : ProcessorId) :
    (r.leave id).registry.isRegistered id = false := by
  rw [leave_registry]
  exact unregisterProcessor_not_isRegistered (h.retractAllBy id) id

/-- Nothing belongs to a processor that has left. -/
theorem BelongsTo.leave {P : ProcessorId → Prop} (h : r.BelongsTo P) (hw : r.WellFormed)
    (hid : P id) : (r.leave id).registry.BelongsTo fun other => P other ∧ other ≠ id := by
  have acts (other : ProcessorId) (he : other = id) : P other := he ▸ hid
  have kept := h.evolves acts acts (leave_evolves r id)
  constructor
  · refine fun i side hp => ⟨kept.sides i side hp, fun he => ?_⟩
    have hs := Row.sideOf_isSome_iff.2 ⟨side, hp, he⟩
    rw [leave_sideOf hw] at hs
    cases hs
  · refine fun i hu => ⟨kept.slots i hu, fun he => ?_⟩
    have hr := isRegistered_iff.2 ⟨i, hu, he⟩
    rw [leave_not_isRegistered hw] at hr
    cases hr

end Registry

end SharedVariables
