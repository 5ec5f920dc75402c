import SharedVariables.Registry.Offer
import SharedVariables.Registry.Retract

/-!
# What two partners share

`Row.bare` is a row without flags and access state: the key, the name and who is on which side.
Events, control bits and accesses keep it (`bare_markEvent` and its neighbours), and how far a
variable is coupled and on which side somebody is depend on it alone (`coupling_of_bare`,
`sideOf_of_bare`). `leave_of_coupled` and `leave_of_offered` say what is left when a partner goes.
-/

namespace SharedVariables

/-- A partner without its flags. -/
def Partner.bare (p : Partner) : Partner := .ofProcess p.id p.pid p.port

namespace Partner

@[simp] theorem present_bare (p : Partner) : p.bare.Present ↔ p.Present := Iff.rfl
@[simp] theorem bare_withControl (p : Partner) (c : Control) : (p.withControl c).bare = p.bare :=
  rfl
@[simp] theorem bare_withEvent (p : Partner) (b : Bool) : (p.withEvent b).bare = p.bare := rfl

theorem not_present_target (id : ProcessorId) : ¬(target id).Present := fun h => h.1 rfl

theorem not_present_empty : ¬empty.Present := fun h => h.1 rfl

/-- A partner that is present is nobody's general address. -/
theorem Present.not_isGeneral {p : Partner} (h : p.Present) : ¬p.id.IsGeneral := by
  intro hg
  have hp := h.2
  rw [show p.id.proc = 0 from hg] at hp
  exact absurd hp (by decide)

end Partner

namespace Row

/-- A row without the flags of its sides and without its access state. -/
def bare (row : Row) : Row := ⟨row.key, row.offering.bare, row.accepting.bare, 0, row.name⟩

theorem bare_withPartner {row : Row} {side : Side} {p : Partner}
    (h : p.bare = (row.partner side).bare) : (row.withPartner p side).bare = row.bare := by
  cases side <;> simp only [partner] at h <;> simp [bare, withPartner, h]

@[simp] theorem bare_markEvent (row : Row) (side : Side) : (row.markEvent side).bare = row.bare :=
  bare_withPartner (Partner.bare_withEvent ..)

@[simp] theorem bare_withControl (row : Row) (side : Side) (c : Control) :
    (row.withControl side c).bare = row.bare :=
  bare_withPartner (Partner.bare_withControl ..)

@[simp] theorem bare_withState (row : Row) (s : AccessState) : (row.withState s).bare = row.bare :=
  rfl

@[simp] theorem bare_clearEvent (row : Row) (id : ProcessorId) :
    (row.clearEvent id).bare = row.bare := by
  simp only [clearEvent]
  split
  · exact bare_withPartner (Partner.bare_withEvent ..)
  · rfl

variable {row row' : Row}

theorem key_of_bare (h : row'.bare = row.bare) : row'.key = row.key :=
  (congrArg Row.key h :)

theorem name_of_bare (h : row'.bare = row.bare) : row'.name = row.name :=
  (congrArg Row.name h :)

theorem partner_of_bare (h : row'.bare = row.bare) (side : Side) :
    (row'.partner side).bare = (row.partner side).bare := by
  cases side
  · exact (congrArg Row.offering h :)
  · exact (congrArg Row.accepting h :)

theorem id_of_bare (h : row'.bare = row.bare) (side : Side) :
    (row'.partner side).id = (row.partner side).id :=
  (congrArg Partner.id (partner_of_bare h side) :)

theorem pid_of_bare (h : row'.bare = row.bare) (side : Side) :
    (row'.partner side).pid = (row.partner side).pid :=
  (congrArg Partner.pid (partner_of_bare h side) :)

theorem port_of_bare (h : row'.bare = row.bare) (side : Side) :
    (row'.partner side).port = (row.partner side).port :=
  (congrArg Partner.port (partner_of_bare h side) :)

theorem present_of_bare (h : row'.bare = row.bare) (side : Side) :
    (row'.partner side).Present ↔ (row.partner side).Present := by
  rw [← Partner.present_bare, partner_of_bare h side, Partner.present_bare]

theorem free_of_bare (h : row'.bare = row.bare) : row'.Free ↔ row.Free := by
  simp only [Free, key_of_bare h]

theorem coupling_of_bare (h : row'.bare = row.bare) : row'.coupling = row.coupling := by
  have ho := present_of_bare h .offering
  have ha := present_of_bare h .accepting
  simp only [partner] at ho ha
  simp only [coupling, Coupling.ofSides, ho, ha]

theorem target_of_bare (h : row'.bare = row.bare) : row'.target = row.target :=
  id_of_bare h .accepting

theorem sideOf_of_bare (h : row'.bare = row.bare) (id : ProcessorId) :
    row'.sideOf id = row.sideOf id := by
  have ho := present_of_bare h .offering
  have ha := present_of_bare h .accepting
  have io := id_of_bare h .offering
  have ia := id_of_bare h .accepting
  simp only [partner] at ho ha io ia
  simp only [sideOf, sideWith, ho, ha, io, ia]

/-! ## Who is on which side -/

theorem coupling_eq_coupled_iff :
    row.coupling = .coupled ↔ row.offering.Present ∧ row.accepting.Present := by
  by_cases ho : row.offering.Present <;> by_cases ha : row.accepting.Present <;>
    simp [coupling, Coupling.ofSides, ho, ha]

theorem coupling_eq_offered_iff :
    row.coupling = .offered ↔ row.offering.Present ∧ ¬row.accepting.Present := by
  by_cases ho : row.offering.Present <;> by_cases ha : row.accepting.Present <;>
    simp [coupling, Coupling.ofSides, ho, ha]

theorem coupling_eq_none_iff : row.coupling = .none ↔ ¬row.offering.Present := by
  by_cases ho : row.offering.Present <;> by_cases ha : row.accepting.Present <;>
    simp [coupling, Coupling.ofSides, ho, ha]

theorem sideWith_eq_some {which : Partner → Bool} {side : Side}
    (h : row.sideWith which = some side) :
    (row.partner side).Present ∧ which (row.partner side) = true := by
  simp only [sideWith] at h
  split at h
  · rename_i hs
    cases h
    exact hs
  split at h
  · rename_i hs
    cases h
    exact hs
  · cases h

theorem sideWith_isSome_iff {which : Partner → Bool} :
    (row.sideWith which).isSome ↔
      ∃ side, (row.partner side).Present ∧ which (row.partner side) = true := by
  constructor
  · intro h
    obtain ⟨side, hs⟩ := Option.isSome_iff_exists.1 h
    exact ⟨side, sideWith_eq_some hs⟩
  · rintro ⟨side, hp, hw⟩
    simp only [sideWith]
    split
    · rfl
    cases side with
    | offering => rename_i hn; exact absurd ⟨hp, hw⟩ hn
    | accepting => rw [if_pos ⟨hp, hw⟩]; rfl

theorem sideOf_eq_some {id : ProcessorId} {side : Side} (h : row.sideOf id = some side) :
    (row.partner side).Present ∧ (row.partner side).id = id := by
  simpa using sideWith_eq_some h

theorem sideOf_isSome_iff {id : ProcessorId} :
    (row.sideOf id).isSome ↔ ∃ side, (row.partner side).Present ∧ (row.partner side).id = id := by
  simp only [sideOf, sideWith_isSome_iff, decide_eq_true_eq]

/-! ## Who completes an offer -/

theorem isCompletedBy_iff {name : Name} {addressee requester : ProcessorId} :
    row.isCompletedBy name addressee requester = true ↔ row.coupling = .offered ∧
      row.name.Matches name ∧ canCouple row.offering.id row.target addressee requester = true := by
  simp only [isCompletedBy, Bool.and_eq_true, decide_eq_true_eq, and_assoc]

/-- Nobody completes an offer of their own. -/
theorem canCouple_ne {offering target addressee requester : ProcessorId}
    (h : canCouple offering target addressee requester = true) : offering ≠ requester := by
  rintro rfl
  simp [canCouple] at h

/-- An offer is completed only by somebody it is made to. -/
theorem canCouple_target {offering target addressee requester : ProcessorId}
    (h : canCouple offering target addressee requester = true) :
    target.IsGeneral ∨ target = requester := by
  simp only [canCouple] at h
  split at h
  · cases h
  split at h
  · simp only [Bool.and_eq_true, decide_eq_true_eq] at h
    exact .inr h.2
  · simp only [Bool.and_eq_true, Bool.or_eq_true, decide_eq_true_eq] at h
    exact h.2

/-! ## A partner leaves -/

theorem not_present_partner_empty (side : Side) : ¬(empty.partner side).Present := by
  cases side <;> exact Partner.not_present_empty

theorem sideOf_empty (id : ProcessorId) : empty.sideOf id = none := by
  rw [← Option.not_isSome_iff_eq_none, sideOf_isSome_iff]
  exact fun ⟨side, hp, _⟩ => not_present_partner_empty side hp

/-- What is left of a row is either nothing or has the partners that it should have. -/
theorem partner_of_left {left : Row} {side : Side}
    (h : ((if left.coupling = .none then .empty
      else left.withState .notShared).partner side).Present) :
    (if left.coupling = .none then .empty else left.withState .notShared).partner side =
      left.partner side := by
  by_cases hc : left.coupling = .none
  · rw [if_pos hc] at h
    exact absurd h (not_present_partner_empty side)
  · rw [if_neg hc]
    cases side <;> rfl

/-- Who is present after a partner left was present before. -/
theorem partner_leave {left side : Side} (h : ((row.leave left).partner side).Present) :
    ∃ side', row.partner side' = (row.leave left).partner side := by
  have he := partner_of_left h
  simp only [leave] at h ⊢
  rw [he] at h ⊢
  cases left with
  | offering =>
    by_cases hc : row.coupling = .coupled
    · simp only [hc, ↓reduceIte] at h ⊢
      cases side with
      | offering => exact ⟨.accepting, rfl⟩
      | accepting => exact absurd h (Partner.not_present_target _)
    · simp only [hc, ↓reduceIte] at h ⊢
      cases side with
      | offering => exact absurd h Partner.not_present_empty
      | accepting => exact ⟨.accepting, rfl⟩
  | accepting =>
    cases side with
    | offering => exact ⟨.offering, rfl⟩
    | accepting => exact absurd h (Partner.not_present_target _)

/-- The partner that remains of two is the offering one, and its offer is addressed to the partner
that left. -/
theorem leave_of_coupled (h : row.coupling = .coupled) (side : Side) :
    row.leave side =
      { row with
        offering := row.partner side.other
        accepting := .target (row.partner side).id
        stateCode := AccessState.notShared.code } := by
  obtain ⟨ho, ha⟩ := coupling_eq_coupled_iff.1 h
  cases side with
  | offering =>
    have hc : ({ row with offering := row.accepting, accepting := .target row.offering.id } :
        Row).coupling ≠ .none := fun e => coupling_eq_none_iff.1 e ha
    simp only [leave, h, ↓reduceIte, hc]
    rfl
  | accepting =>
    have hc : ({ row with accepting := .target row.accepting.id } : Row).coupling ≠ .none :=
      fun e => coupling_eq_none_iff.1 e ho
    simp only [leave, hc, ↓reduceIte]
    rfl

/-- Nothing remains of an offer that is withdrawn. -/
theorem leave_of_offered (h : row.coupling = .offered) : row.leave .offering = .empty := by
  have hn : row.coupling ≠ .coupled := by rw [h]; decide
  have hc : ({ row with offering := .empty } : Row).coupling = .none :=
    coupling_eq_none_iff.2 Partner.not_present_empty
  simp only [leave, hn, ↓reduceIte, hc]

end Row

end SharedVariables
