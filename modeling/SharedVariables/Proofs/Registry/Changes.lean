import SharedVariables.Proofs.Registry.FreshKey
import SharedVariables.Proofs.Registry.Row

/-!
# Which rows an operation changes

The table of rows after an event, an offer, a match and a retract: at most one row is another, and
it is given from the row before. `matchOrMake_of_pending` and `matchOrMake_of_free` are the two ways
in which a variable is shared; `retract_rows` is the one way in which a share ends.
-/

namespace SharedVariables

/-- The row of an offer of `p` to `addressee`, who has been told of it or not. -/
def Row.pending (key : Key) (name : Name) (addressee : ProcessorId) (p : Partner) (told : Bool) :
    Row :=
  { Row.offer key name p.bare addressee with accepting.flags.offerSent := told }

/-- A row after the partner on `side` has left and the one that remains has been told. -/
def Row.retracted (row : Row) (side : Side) : Row :=
  let left := row.leave side
  if left.Free ∨ ¬left.offering.Present then left else left.markEvent .offering

theorem Row.bare_retracted (row : Row) (side : Side) :
    (row.retracted side).bare = (row.leave side).bare := by
  simp only [retracted]
  split
  · rfl
  · exact bare_markEvent ..

/-- What is told to the partner that remains of two is marked on its side, which is the offering one
now. -/
theorem Row.retracted_of_coupled {row : Row} (h : row.coupling = .coupled) (used : ¬row.Free)
    (side : Side) :
    row.retracted side =
      { row with
        offering := (row.partner side.other).withEvent true
        accepting := .target (row.partner side).id
        stateCode := AccessState.notShared.code } := by
  obtain ⟨ho, ha⟩ := coupling_eq_coupled_iff.1 h
  have present : (row.partner side.other).Present := by cases side <;> assumption
  have left := leave_of_coupled h side
  have used' : ¬(row.leave side).Free := by rw [left]; exact used
  have present' : (row.leave side).offering.Present := by rw [left]; exact present
  simp only [retracted, used', present', not_true, or_self, ↓reduceIte]
  rw [left]
  rfl

theorem Row.retracted_of_offered {row : Row} (h : row.coupling = .offered) :
    row.retracted .offering = .empty := by
  rw [retracted, leave_of_offered h]
  exact if_pos (.inl rfl)

namespace Registry

variable {r : Registry} {i : RowIndex}

/-! ## Events -/

@[simp] theorem addToSlot_rows (id : ProcessorId) (event : Event) :
    (r.addToSlot id event).rows = r.rows := by
  simp only [addToSlot]
  split <;> rfl

theorem emptySlotEvents_rows (id : ProcessorId) : (r.emptySlotEvents id).rows = r.rows := by
  simp only [emptySlotEvents]
  split <;> rfl

theorem fireEvent_rows (side : Side) (event : Event) :
    (r.fireEvent i side event).registry.rows =
      if ((r.rows.get i).partner side).Present then put r.rows i ((r.rows.get i).markEvent side)
      else r.rows := by
  simp only [fireEvent]
  split
  · exact addToSlot_rows ..
  · rfl

/-! ## Offers -/

/-- An offer fills the first free row, under a key that no variable has. -/
theorem createOffer_of_free (name : Name) (addressee : ProcessorId) {p : Partner}
    (hp : p.Present) (hi : first? r.rows (fun row => row.Free) = some i) :
    ∃ key told, r.Untaken key ∧
      (r.createOffer name addressee p).value = .ok i ∧
      (r.createOffer name addressee p).registry.slots = r.slots ∧
      (r.createOffer name addressee p).registry.rows =
        put r.rows i (.pending key name addressee p told) := by
  have free : (r.rows.get i).Free := by simpa using (first?_eq_some_iff.1 hi).1
  have hu := freshKey_untaken free p.pid p.id.proc
  unfold createOffer
  generalize r.freshKey p.pid p.id.proc = fresh at hu ⊢
  obtain ⟨key, seq⟩ := fresh
  rw [if_pos hp, hi]
  exact ⟨key, _, hu, rfl, rfl, rfl⟩

theorem createOffer_of_full (name : Name) (addressee : ProcessorId) {p : Partner}
    (hp : p.Present) (h : first? r.rows (fun row => row.Free) = none) :
    r.createOffer name addressee p = r.unchanged (.error .tableFull) := by
  unfold createOffer
  rw [if_pos hp, h]

theorem createOffer_of_absent (name : Name) (addressee : ProcessorId) {p : Partner}
    (hp : ¬p.Present) :
    r.createOffer name addressee p = r.unchanged (.error (.invalidPartner p)) := by
  unfold createOffer
  rw [if_neg hp]

/-- A request completes the first offer that it fits, and the partner that made the offer is
told. -/
theorem matchPendingOffer_of_pending {name : Name} {addressee : ProcessorId} {p : Partner}
    (hi : r.findPending name addressee p.id = some i) :
    (r.matchPendingOffer name addressee p).value = some i ∧
      (r.matchPendingOffer name addressee p).registry.rows =
        put r.rows i (((r.rows.get i).accept name p).markEvent .offering) := by
  have hc : (r.rows.get i).isCompletedBy name addressee p.id = true := (first?_eq_some_iff.1 hi).1
  have ho := (Row.coupling_eq_offered_iff.1 (Row.isCompletedBy_iff.1 hc).1).1
  have accepted : (r.modifyRow i (·.accept name p)).rows.get i = (r.rows.get i).accept name p :=
    modifyRow_self ..
  have told :=
    fireEvent_rows (r := r.modifyRow i (·.accept name p)) (i := i) .offering .offerMatched
  have hp : (((r.rows.get i).accept name p).partner .offering).Present := ho
  rw [accepted, if_pos hp] at told
  simp only [matchPendingOffer, hi, told]
  exact ⟨trivial, put_put ..⟩

theorem matchOrMake_of_pending {name : Name} {addressee : ProcessorId} {p : Partner}
    (hp : p.Present) (hi : r.findPending name addressee p.id = some i) :
    (r.matchOrMake name addressee p).value = .ok ((r.rows.get i).key, .coupled) ∧
      (r.matchOrMake name addressee p).registry.rows =
        put r.rows i (((r.rows.get i).accept name p).markEvent .offering) := by
  obtain ⟨hv, hr⟩ := matchPendingOffer_of_pending hi
  simp only [matchOrMake, hp, ↓reduceIte, Outcome.andThen, hv, hr, unchanged, and_true]
  have key : (((r.rows.get i).accept name p).markEvent .offering).key =
      ((r.rows.get i).accept name p).key := Row.key_of_bare (Row.bare_markEvent ..)
  rw [get_put, if_pos rfl, key]
  rfl

/-- A request that no offer fits becomes an offer. -/
theorem matchOrMake_of_free {name : Name} {addressee : ProcessorId} {p : Partner} (hp : p.Present)
    (hn : r.findPending name addressee p.id = none)
    (hi : first? r.rows (fun row => row.Free) = some i) :
    ∃ key told, r.Untaken key ∧
      (r.matchOrMake name addressee p).value = .ok (key, .offered) ∧
      (r.matchOrMake name addressee p).registry.rows =
        put r.rows i (.pending key name addressee p told) := by
  obtain ⟨key, told, hu, hv, -, hr⟩ := createOffer_of_free name addressee hp hi
  refine ⟨key, told, hu, ?_⟩
  simp only [matchOrMake, hp, ↓reduceIte, matchPendingOffer, hn, Outcome.andThen, unchanged, hv, hr,
    Except.map, and_true]
  rw [get_put, if_pos rfl]
  rfl

theorem matchOrMake_of_full {name : Name} {addressee : ProcessorId} {p : Partner} (hp : p.Present)
    (hn : r.findPending name addressee p.id = none)
    (hf : first? r.rows (fun row => row.Free) = none) :
    (r.matchOrMake name addressee p).value = .error .tableFull := by
  simp only [matchOrMake, hp, ↓reduceIte, matchPendingOffer, hn, Outcome.andThen, unchanged,
    createOffer_of_full name addressee hp hf, Except.map]

/-! ## Retracts -/

theorem retractSide_rows (side : Side) :
    (r.retractSide i side).registry.rows = put r.rows i ((r.rows.get i).retracted side) := by
  have changed : (r.modifyRow i (·.leave side)).rows.get i = (r.rows.get i).leave side :=
    modifyRow_self ..
  have told := fireEvent_rows (r := r.modifyRow i (·.leave side)) (i := i) .offering .offerRetracted
  rw [changed] at told
  simp only [retractSide, changed, Row.retracted]
  by_cases hf : ((r.rows.get i).leave side).Free
  · simp only [hf, true_or, ↓reduceIte]
    rfl
  by_cases hp : ((r.rows.get i).leave side).offering.Present
  · simp only [hf, hp, not_true, or_self, ↓reduceIte, told, Row.partner]
    exact put_put ..
  · simp only [hf, hp, not_false_iff, or_true, ↓reduceIte, told, Row.partner]
    rfl

theorem retract_eq_retractSide {key : Key} {id : ProcessorId} {side : Side}
    (hi : r.findVar key = some i) (hs : (r.rows.get i).sideOf id = some side) :
    r.retract key id = (r.retractSide i side).map fun _ => (r.rows.get i).coupling := by
  simp only [retract, hi, hs]

/-- A retract by a partner changes its row and no other; a retract by anybody else changes none. -/
theorem retract_rows (key : Key) (id : ProcessorId) :
    (r.retract key id).registry.rows = r.rows ∨
      ∃ i side, r.findVar key = some i ∧ (r.rows.get i).sideOf id = some side ∧
        (r.retract key id).registry.rows = put r.rows i ((r.rows.get i).retracted side) := by
  cases hi : r.findVar key with
  | none => simp only [retract, hi]; exact .inl rfl
  | some i =>
    cases hs : (r.rows.get i).sideOf id with
    | none => simp only [retract, hi, hs]; exact .inl rfl
    | some side =>
      refine .inr ⟨i, side, rfl, hs, ?_⟩
      rw [retract_eq_retractSide hi hs]
      exact retractSide_rows side

end Registry

end SharedVariables
