import SharedVariables.Proofs.Registry.Convergence
import SharedVariables.Proofs.Registry.Lifecycle
import SharedVariables.Proofs.Registry.Sharing

/-!
# Leaving and coming back

`LeftAt` says what is left when one of two partners retracts from their row: the other one, on the offering
side, and an offer to the one that has left. From there it goes in three ways. A second retract does nothing
(`LeftAt.again`); when the other partner retracts too the row is free (`LeftAt.both`); and a request of
the partner that has left for the name of the row suits the offer (`LeftAt.suits`), so it couples, and if
nothing else suits it couples in this row (`LeftAt.returned`). `retract_and_return` puts this together.
-/

namespace SharedVariables

/-- The partner that has left `row` from `side` has come back as `p`, in `row'`: on the accepting side now,
and as if nothing had happened. -/
structure Row.Returned (row : Row) (side : Side) (p : Partner) (row' : Row) : Prop where
  coupling : row'.coupling = .coupled
  key : row'.key = row.key
  name : row'.name = row.name
  state : row'.state = .idle
  offering : row'.offering.bare = (row.partner side.other).bare
  control : row'.offering.flags.control = (row.partner side.other).flags.control
  /-- No flags are set on the side of the partner that has come back. -/
  accepting : row'.accepting = .ofProcess p.id p.pid p.port

namespace Registry

variable {r left : Registry} {i : RowIndex} {side : Side}

/-- The partner on `side` of the row at `i` has left it, and the other one offers to it. -/
structure LeftAt (r : Registry) (i : RowIndex) (side : Side) (left : Registry) : Prop where
  well : left.WellFormed
  /-- The partner that remains. -/
  present : ((r.rows.get i).partner side.other).Present
  differ : ((r.rows.get i).partner side.other).id ≠ ((r.rows.get i).partner side).id
  rows : left.rows = put r.rows i
    { r.rows.get i with
      offering := ((r.rows.get i).partner side.other).withEvent true
      accepting := .target ((r.rows.get i).partner side).id
      stateCode := AccessState.notShared.code }

theorem retract_leftAt (h : r.WellFormed) (coupled : (r.rows.get i).coupling = .coupled) (side : Side) :
    r.LeftAt i side (r.retract (r.rows.get i).key ((r.rows.get i).partner side).id).registry := by
  obtain ⟨ho, ha⟩ := Row.coupling_eq_coupled_iff.1 coupled
  have both (side : Side) : ((r.rows.get i).partner side).Present := by cases side <;> assumption
  have sound := h.rows.sound i
  have used := sound.not_free_of_present (both side)
  have differ : ((r.rows.get i).partner side.other).id ≠ ((r.rows.get i).partner side).id := by
    cases side
    · exact Ne.symm (sound.coupled coupled).1
    · exact (sound.coupled coupled).1
  refine ⟨h.retract _ _, both side.other, differ, ?_⟩
  rw [retract_of_present h (both side), Outcome.map, retractSide_rows,
    Row.retracted_of_coupled coupled used]

namespace LeftAt

theorem row (h : r.LeftAt i side left) :
    left.rows.get i =
      { r.rows.get i with
        offering := ((r.rows.get i).partner side.other).withEvent true
        accepting := .target ((r.rows.get i).partner side).id
        stateCode := AccessState.notShared.code } := by
  rw [h.rows, get_put, if_pos rfl]

theorem others (h : r.LeftAt i side left) {j : RowIndex} (hj : j ≠ i) :
    left.rows.get j = r.rows.get j := by
  rw [h.rows, get_put, if_neg (Ne.symm hj)]

theorem offered (h : r.LeftAt i side left) : (left.rows.get i).coupling = .offered := by
  rw [h.row]
  exact Row.coupling_eq_offered_iff.2 ⟨h.present, Partner.not_present_target _⟩

theorem findVar (h : r.LeftAt i side left) : left.findVar (r.rows.get i).key = some i := by
  have found := h.well.findVar_key ((h.well.rows.sound i).not_free_of_coupling
    (h.offered.trans_ne nofun))
  rwa [h.row] at found

/-- Who has left is no partner any more, and cannot leave a second time. -/
theorem again (h : r.LeftAt i side left) :
    left.retract (r.rows.get i).key ((r.rows.get i).partner side).id = left.unchanged .offered := by
  have stranger : (left.rows.get i).sideOf ((r.rows.get i).partner side).id = none := by
    rw [← Option.not_isSome_iff_eq_none, Row.sideOf_isSome_iff, h.row]
    rintro ⟨side', present, same⟩
    cases side' with
    | offering => exact h.differ same
    | accepting => exact Partner.not_present_target _ present
  simp only [retract, h.findVar, stranger, h.offered]

/-- When both partners have left the row is free. -/
theorem both (h : r.LeftAt i side left) :
    (left.retract (r.rows.get i).key ((r.rows.get i).partner side.other).id).registry.rows =
      put r.rows i .empty := by
  have alone : (left.rows.get i).sideOf ((r.rows.get i).partner side.other).id = some .offering := by
    rw [h.row]
    exact if_pos ⟨h.present, decide_eq_true rfl⟩
  rw [retract_eq_retractSide h.findVar alone, Outcome.map, retractSide_rows,
    Row.retracted_of_offered h.offered, h.rows, put_put]

/-- The offer that is left suits whoever has left, if it is asked for by name, from the other partner or
from everybody. -/
theorem suits (h : r.LeftAt i side left) {addressee : ProcessorId}
    (asks : addressee = ((r.rows.get i).partner side.other).id ∨ addressee.IsGeneral) :
    (left.rows.get i).Suits (r.rows.get i).name addressee ((r.rows.get i).partner side).id where
  offered := h.offered
  named := by
    rw [h.row]
    exact Name.matches_self _
  foreign := by
    rw [h.row]
    exact h.differ
  general _ := by
    rw [h.row]
    rfl
  specific one := by
    rw [h.row]
    exact ⟨(asks.resolve_right one).symm, .inr rfl⟩

/-- A request that completes the offer that is left makes the row what it was, with the partner that has
come back on the accepting side. -/
theorem returned (h : r.LeftAt i side left) {p : Partner} {back : ShareOutcome}
    (done : left.CompletedAt (r.rows.get i).name p i back) :
    (r.rows.get i).Returned side p (back.registry.rows.get i) := by
  obtain ⟨-, key, coupling, accepting, offering, -, keeps, becomesIdle, -⟩ := done
  rw [h.row] at key offering keeps becomesIdle
  exact
    { coupling := coupling
      key := key
      name := keeps fun ⟨star, plain⟩ => Bool.false_ne_true (plain.symm.trans star)
      state := becomesIdle (Row.state_of_code rfl)
      offering := (congrArg Partner.bare offering :)
      control := (congrArg (·.flags.control) offering :)
      accepting := accepting }

end LeftAt

/-- Leaving twice, both leaving, and leaving and coming back. Of two partners that share a variable, one
that has retracted may do it again and nothing happens, and when the other one retracts too the row is free,
whoever has been first. If it asks for the variable instead, from the other partner or from everybody, it is
coupled, whatever else there is; and if no other offer suits it, it is back in the row, in which the other
partner offers now and keeps its control bits. -/
theorem retract_and_return (h : r.Reachable) (coupled : (r.rows.get i).coupling = .coupled)
    (side : Side) :
    let row := r.rows.get i
    let x := row.partner side
    let y := row.partner side.other
    let left := (r.retract row.key x.id).registry
    left.retract row.key x.id = left.unchanged .offered ∧
      (left.retract row.key y.id).registry.rows = put r.rows i .empty ∧
      ((r.retract row.key y.id).registry.retract row.key x.id).registry.rows = put r.rows i .empty ∧
      ∀ (p : Partner) (addressee : ProcessorId), p.Present → p.id = x.id →
        addressee = y.id ∨ addressee.IsGeneral →
        let back := left.matchOrMake row.name addressee p
        (∃ key, back.value = .ok (key, .coupled)) ∧
          ((∀ j, j ≠ i → ¬(r.rows.get j).Suits row.name addressee x.id) →
            back.value = .ok (row.key, .coupled) ∧ row.Returned side p (back.registry.rows.get i)) := by
  intro row x y left
  have leftX : r.LeftAt i side left := retract_leftAt h.wellFormed coupled side
  have leftY := retract_leftAt h.wellFormed coupled side.other
  have second := leftY.both
  rw [show side.other.other = side by cases side <;> rfl] at second
  refine ⟨leftX.again, leftX.both, second, ?_⟩
  intro p addressee present same asks back
  have suits : (left.rows.get i).Suits row.name addressee p.id := same ▸ leftX.suits asks
  obtain ⟨j, ⟨found, -⟩, done⟩ := matchOrMake_of_suits present suits
  refine ⟨⟨_, done.value⟩, fun only => ?_⟩
  have here : j = i := by
    by_contra other
    rw [leftX.others other, same] at found
    exact only j other found
  rw [here] at done
  refine ⟨done.value.trans ?_, leftX.returned done⟩
  rw [leftX.row]

/-- The partner that has made an offer leaves, and comes back in another process to ask everybody for the
variable. -/
theorem retract_and_return_of_offerer :
    let a := Partner.ofProcess (.single 1001) 10 0
    let b := Partner.ofProcess (.single 1002) 20 0
    let name := Name.ofText "LEVEL*"
    let r := empty.run [.matchOrMake name .general a, .matchOrMake name a.id b]
    let row := r.rows.get 0
    let left := (r.retract row.key a.id).registry
    let p := Partner.ofProcess a.id 30 0
    let back := left.matchOrMake row.name .general p
    left.retract row.key a.id = left.unchanged .offered ∧ back.value = .ok (row.key, .coupled) ∧
      row.Returned .offering p (back.registry.rows.get 0) := by
  intro a b name r row left p back
  have coupled : row.coupling = .coupled := by decide +kernel
  have first : (row.partner .offering).id = a.id := by decide +kernel
  have alone : ∀ j : RowIndex, j ≠ 0 → (r.rows.get j).coupling ≠ .offered := by decide +kernel
  obtain ⟨again, -, -, returns⟩ := retract_and_return (r := r) ⟨_, rfl⟩ coupled .offering
  rw [show ((r.rows.get 0).partner .offering).id = a.id from first] at again returns
  obtain ⟨-, here⟩ := returns p .general (by decide) rfl (.inr rfl)
  exact ⟨again, here fun j hj suits => alone j hj suits.offered⟩

end Registry

end SharedVariables
