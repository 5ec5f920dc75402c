import SharedVariables.Proofs.Registry.Step

/-!
# Retracting row by row

The retracts of a whole process, of a whole identity and of dead processes go through the table and
retract in one row after the other (`sumRows_induction`): what a single retract keeps, they keep
(`sumRows_invariant`, `retractWhile_invariant`), and if the steps do not touch each other's rows,
every row ends as its own step leaves it (`sumRows_row`).
-/

namespace SharedVariables

namespace Registry

open Relation

/-! ## Going through the table -/

section Sum

variable {P : Registry → Prop}

theorem retractWhile_invariant {leaving : Row → Option ProcessorId} {i : RowIndex}
    (h : ∀ r id, P r → leaving (r.rows.get i) = some id →
      P (r.retract (r.rows.get i).key id).registry)
    (fuel : Nat) {r : Registry} (hr : P r) : P (retractWhile leaving i fuel r).registry := by
  induction fuel generalizing r with
  | zero => exact hr
  | succ fuel ih =>
    simp only [retractWhile]
    split
    · exact hr
    · rename_i id hid
      exact ih (h r id hr hid)

variable {step : RowIndex → Registry → Outcome Nat}

/-- What holds with all rows still to come, and is kept at the turn of each row, holds when there are no
more rows to come. A row has one turn. -/
theorem sumRows_induction {M : List RowIndex → Outcome Nat → Prop} {r : Registry}
    (start : M (List.finRange rowCapacity) (r.unchanged 0))
    (turn : ∀ i rest o, i ∉ rest → M (i :: rest) o →
      M rest (o.andThen fun n r => (step i r).map (n + ·))) : M [] (sumRows step r) := by
  have go (l : List RowIndex) : l.Nodup → ∀ o : Outcome Nat, M l o →
      M [] (l.foldl (fun sum i => sum.andThen fun n r => (step i r).map (n + ·)) o) := by
    induction l with
    | nil => exact fun _ _ ho => ho
    | cons i l ih =>
      intro hl o ho
      obtain ⟨hi, hl⟩ := List.nodup_cons.1 hl
      exact ih hl _ (turn i l o hi ho)
  exact go _ (List.nodup_finRange _) _ start

theorem sumRows_invariant (h : ∀ i r, P r → P (step i r).registry) {r : Registry} (hr : P r) :
    P (sumRows step r).registry :=
  sumRows_induction (M := fun _ o => P o.registry) hr fun i _ _ _ => h i _

/-- If every step changes its own row alone, and that one as `f` says, then every row is changed as
`f` says: until its turn the row is as it was, and from then on as its step has left it. -/
theorem sumRows_row {f : Row → Row → Prop} (inv : ∀ i r, P r → P (step i r).registry)
    (frame : ∀ i j r, P r → i ≠ j → (step i r).registry.rows.get j = r.rows.get j)
    (own : ∀ i r, P r → f (r.rows.get i) ((step i r).registry.rows.get i)) {r : Registry} (hr : P r)
    (j : RowIndex) : f (r.rows.get j) ((sumRows step r).registry.rows.get j) := by
  let M (rest : List RowIndex) (o : Outcome Nat) : Prop := P o.registry ∧
    (j ∈ rest → o.registry.rows.get j = r.rows.get j) ∧
      (j ∉ rest → f (r.rows.get j) (o.registry.rows.get j))
  have all : M [] (sumRows step r) := by
    refine sumRows_induction ⟨hr, fun _ => rfl, fun hj => absurd (List.mem_finRange j) hj⟩ ?_
    intro i rest o hi ⟨ho, before, after⟩
    have same (hij : i ≠ j) := frame i j o.registry ho hij
    refine ⟨inv i _ ho, fun hj => ?_, fun hj => ?_⟩
    · exact (same fun hij => hi (hij ▸ hj)).trans (before (List.mem_cons_of_mem i hj))
    · by_cases hij : i = j
      · subst hij
        exact before List.mem_cons_self ▸ own i o.registry ho
      · have kept : (o.andThen fun n r => (step i r).map (n + ·)).registry.rows.get j =
            o.registry.rows.get j := same hij
        rw [kept]
        exact after (List.not_mem_cons_of_ne_of_not_mem (Ne.symm hij) hj)
  exact all.2.2 List.not_mem_nil

end Sum

/-! ## Retracts of many rows -/

/-- Whether a processor is a side of some row for a process that satisfies `which`. -/
def HoldsSide (r : Registry) (which : UInt32 → Bool) (id : ProcessorId) : Prop :=
  ∃ (i : RowIndex) (side : Side), ((r.rows.get i).partner side).Present ∧
    which ((r.rows.get i).partner side).pid = true ∧ ((r.rows.get i).partner side).id = id

variable {enrolls : ProcessorId → Prop} (r : Registry)

/-- Nobody gets a side by a retract. -/
theorem HoldsSide.of_retract {r : Registry} {which : UInt32 → Bool} {key : Key}
    {id id' : ProcessorId} (h : (r.retract key id).registry.HoldsSide which id') :
    r.HoldsSide which id' := by
  obtain ⟨j, side, hj⟩ := h
  rcases retract_rows (r := r) key id with hr | ⟨i, left, -, -, hr⟩ <;> rw [hr] at hj
  · exact ⟨j, side, hj⟩
  rw [get_put] at hj
  by_cases hij : i = j
  · rw [if_pos hij] at hj
    have hb := Row.bare_retracted (r.rows.get i) left
    rw [Row.present_of_bare hb, Row.pid_of_bare hb, Row.id_of_bare hb] at hj
    obtain ⟨side', hs⟩ := Row.partner_leave hj.1
    exact ⟨i, side', by rwa [hs]⟩
  · rw [if_neg hij] at hj
    exact ⟨j, side, hj⟩

/-- Retracts for processors that hold sides are done for processors that held them before. -/
theorem retractWhile_evolves {which : UInt32 → Bool} {leaving : Row → Option ProcessorId}
    (h : ∀ row id, leaving row = some id → ∃ side, (row.partner side).Present ∧
      which (row.partner side).pid = true ∧ (row.partner side).id = id)
    (i : RowIndex) (fuel : Nat) {r' : Registry}
    (hr : Evolves (r.HoldsSide which) enrolls r r' ∧
      ∀ id, r'.HoldsSide which id → r.HoldsSide which id) :
    Evolves (r.HoldsSide which) enrolls r (retractWhile leaving i fuel r').registry ∧
      ∀ id, (retractWhile leaving i fuel r').registry.HoldsSide which id →
        r.HoldsSide which id := by
  refine retractWhile_invariant (P := fun r' => Evolves (r.HoldsSide which) enrolls r r' ∧
    ∀ id, r'.HoldsSide which id → r.HoldsSide which id) (fun r' id hr hid => ?_) fuel hr
  obtain ⟨side, hs⟩ := h _ _ hid
  have acts : r.HoldsSide which id := hr.2 id ⟨i, side, hs⟩
  refine ⟨hr.1.trans ((retract_evolves r' _ id).mono ?_ fun _ h => h), fun id' h' => ?_⟩
  · rintro _ rfl
    exact acts
  · exact hr.2 id' h'.of_retract

theorem sumRows_evolves {which : UInt32 → Bool} {leaving : Row → Option ProcessorId}
    (h : ∀ row id, leaving row = some id → ∃ side, (row.partner side).Present ∧
      which (row.partner side).pid = true ∧ (row.partner side).id = id) (fuel : Nat) :
    Evolves (r.HoldsSide which) enrolls r
      (sumRows (fun i => retractWhile leaving i fuel) r).registry :=
  (sumRows_invariant (P := fun r' => Evolves (r.HoldsSide which) enrolls r r' ∧
    ∀ id, r'.HoldsSide which id → r.HoldsSide which id)
    (fun i _ hr => retractWhile_evolves r h i fuel hr) ⟨.refl r, fun _ h => h⟩).1

theorem retractAllOf_evolves (pid : UInt32) :
    Evolves (r.HoldsSide (· = pid)) enrolls r (r.retractAllOf pid).registry := by
  refine sumRows_evolves r (fun row id h => ?_) 2
  obtain ⟨side, hs, rfl⟩ := Option.map_eq_some_iff.1 h
  obtain ⟨hp, hw⟩ := Row.sideWith_eq_some hs
  exact ⟨side, hp, hw, rfl⟩

theorem removeStale_registry (alive : UInt32 → Bool) :
    (r.removeStale alive).registry =
      (sumRows (fun i => retractWhile (leavingDead alive) i 2)
        (r.unregisterWhere (!alive ·.pid)).registry).registry := by
  simp only [removeStale, Outcome.andThen, Outcome.map]

theorem removeStale_evolves (alive : UInt32 → Bool) :
    Evolves (r.HoldsSide (!alive ·)) (r.HoldsSlot (!alive ·)) r (r.removeStale alive).registry := by
  have dead : ∀ row id, leavingDead alive row = some id → ∃ side, (row.partner side).Present ∧
      (!alive (row.partner side).pid) = true ∧ (row.partner side).id = id := by
    intro row id h
    simp only [leavingDead] at h
    split at h
    · cases h
    obtain ⟨side, hs, rfl⟩ := Option.map_eq_some_iff.1 h
    obtain ⟨hp, hw⟩ := Row.sideWith_eq_some hs
    exact ⟨side, hp, hw, rfl⟩
  have rows (id : ProcessorId)
      (h : (r.unregisterWhere (!alive ·.pid)).registry.HoldsSide (!alive ·) id) :
      r.HoldsSide (!alive ·) id := by
    simpa only [HoldsSide, unregisterWhere] using h
  rw [removeStale_registry]
  exact (unregisterWhere_evolves r (!alive ·)).trans
    ((sumRows_evolves _ dead 2).mono rows fun _ h => h)

theorem retractAllBy_evolves (id : ProcessorId) :
    Evolves (· = id) enrolls r (r.retractAllBy id).registry := by
  refine sumRows_invariant (P := Evolves (· = id) enrolls r) (fun i r' hr => ?_) (.refl r)
  refine retractWhile_invariant (fun r' id' hr hid => ?_) 1 hr
  obtain ⟨-, -, rfl⟩ := Option.map_eq_some_iff.1 hid
  exact hr.trans (retract_evolves r' _ id)

end Registry

end SharedVariables
