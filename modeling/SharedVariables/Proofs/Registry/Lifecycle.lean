import SharedVariables.Proofs.Registry.Leaving
import SharedVariables.Proofs.Registry.Sparing

/-!
# What becomes of a row

An operation that is done for one partner keeps the variable of every row and those who share it, or it
changes them in one row, in one of four ways: a free row gets an offer, an offer is taken up, one of two
partners leaves, an offer is withdrawn. `Row.Meets` says what each of these `Fate`s comes to, and
`perform_changes` that one of them is met; which one, how far the variable is shared before and after
tells (`Row.Meets.unique`). The operations that go through the table take partners out of every row one
after the other, each as a retract of its own (`sumRows_takesOut`). `row_lifecycle` puts them together.
-/

namespace SharedVariables

open Relation

/-- What an operation makes of the variable in a row and of those who share it. -/
inductive Fate where
  /-- They stay. -/
  | kept
  /-- A free row gets an offer. -/
  | made
  /-- An offer is taken up. -/
  | taken
  /-- One of two partners leaves, and the other one offers. -/
  | left
  /-- An offer is withdrawn, and the row is free. -/
  | withdrawn
deriving DecidableEq

/-- The fate that changes how far a variable is shared in a given way. -/
def Fate.ofCouplings : Coupling → Coupling → Fate
  | .none, .offered => .made
  | .offered, .coupled => .taken
  | .coupled, .offered => .left
  | .offered, .none => .withdrawn
  | _, _ => .kept

/-- Which partners an operation takes out of the rows, if it goes through the table for that. -/
def Operation.sweeps? : Operation → Option (Partner → Bool)
  | retractAllOf pid => some (·.pid = pid)
  | retractAllBy id => some (·.id = id)
  | removeStale alive => some (!alive ·.pid)
  | _ => none

namespace Row

variable {r : Registry} {op : Operation} {row row' : Row} {id : ProcessorId} {side : Side}

/-- The variable and both sides stay but for their flags. Its access state stays too, unless the
operation says that one of its partners has used or set it. -/
structure Kept (op : Operation) (row row' : Row) : Prop where
  bare : row'.bare = row.bare
  state : row'.stateCode = row.stateCode ∨
    ∃ side used, op = .setState row.key (row.partner side).id used

/-- A free row gets the offer of the partner that makes it, under a key that no variable has. -/
structure Made (r : Registry) (op : Operation) (row row' : Row) : Prop where
  before : row = .empty
  after : row'.coupling = .offered
  fresh : r.Untaken row'.key
  offer : ∃ name addressee p, (op = .matchOrMake name addressee p ∨ op = .createOffer name addressee p) ∧
    row'.offering = p.bare ∧ row'.target = addressee ∧ row'.name = name

/-- An offer is taken up by a partner that it was made to. The partner that made it keeps its side with
its own control bits. -/
structure Taken (op : Operation) (row row' : Row) : Prop where
  before : row.coupling = .offered
  after : row'.coupling = .coupled
  key : row'.key = row.key
  offering : row'.offering.bare = row.offering.bare
  control : row'.offering.flags.control = row.offering.flags.control
  acceptance : ∃ name addressee p,
    (op = .matchOrMake name addressee p ∨ ∃ present, op = .matchPendingOffer name addressee p present) ∧
      (row.target.IsGeneral ∨ row.target = p.id) ∧ row'.accepting = p.bare

/-- One of two partners retracts. The other one is on the offering side afterwards, with its own control
bits, and offers to the one that has left. -/
structure Left (op : Operation) (row row' : Row) : Prop where
  before : row.coupling = .coupled
  after : row'.coupling = .offered
  key : row'.key = row.key
  name : row'.name = row.name
  state : row'.state = .notShared
  departure : ∃ side, op = .retract row.key (row.partner side).id ∧
    row'.target = (row.partner side).id ∧ row'.offering.bare = (row.partner side.other).bare ∧
    row'.offering.flags.control = (row.partner side.other).flags.control

/-- The partner that has made an offer retracts. -/
structure Withdrawn (op : Operation) (row row' : Row) : Prop where
  before : row.coupling = .offered
  after : row' = .empty
  departure : op = .retract row.key row.offering.id

/-- The code of the access state after the partner on `side` has used or set the variable. -/
def accessCode (row : Row) (side : Side) (used : Bool) : UInt8 :=
  if used then
    if (row.view side).2 = .offeringHasSet then row.stateCode else AccessState.idle.code
  else (Registry.stateSetBy side).code

/-- Whether a row meets a fate in an operation on a registry. -/
def Meets (r : Registry) (op : Operation) (row row' : Row) : Fate → Prop
  | .kept => row.Kept op row'
  | .made => row.Made r op row'
  | .taken => row.Taken op row'
  | .left => row.Left op row'
  | .withdrawn => row.Withdrawn op row'

/-- A partner that satisfies `which` retracts from a row. -/
def TakesOut (which : Partner → Bool) (row row' : Row) : Prop :=
  ∃ side, (row.partner side).Present ∧ which (row.partner side) = true ∧
    (row.Left (.retract row.key (row.partner side).id) row' ∨
      row.Withdrawn (.retract row.key (row.partner side).id) row')

/-! ## One fate -/

theorem coupling_empty : empty.coupling = .none :=
  coupling_eq_none_iff.2 Partner.not_present_empty

theorem Kept.refl (op : Operation) (row : Row) : row.Kept op row := ⟨rfl, .inl rfl⟩

/-- How far a variable is shared before and after tells its fate. -/
theorem Meets.eq_ofCouplings {fate : Fate} (h : row.Meets r op row' fate) :
    fate = .ofCouplings row.coupling row'.coupling := by
  cases fate with
  | kept =>
    rw [coupling_of_bare (show row.Kept op row' from h).bare]
    cases row.coupling <;> rfl
  | made =>
    have made : row.Made r op row' := h
    rw [made.before, made.after, coupling_empty]
    rfl
  | taken =>
    have taken : row.Taken op row' := h
    rw [taken.before, taken.after]
    rfl
  | left =>
    have left : row.Left op row' := h
    rw [left.before, left.after]
    rfl
  | withdrawn =>
    have withdrawn : row.Withdrawn op row' := h
    rw [withdrawn.before, withdrawn.after, coupling_empty]
    rfl

theorem Meets.unique {fate fate' : Fate} (h : row.Meets r op row' fate)
    (h' : row.Meets r op row' fate') : fate = fate' :=
  h.eq_ofCouplings.trans h'.eq_ofCouplings.symm

/-! ## Retracts -/

/-- The sides of a row that is sound hold different processors. -/
theorem Sound.sideOf_id (h : row.Sound) (hp : (row.partner side).Present) :
    row.sideOf (row.partner side).id = some side := by
  have some_side : (row.sideOf (row.partner side).id).isSome :=
    sideOf_isSome_iff.2 ⟨side, hp, rfl⟩
  obtain ⟨side', hs⟩ := Option.isSome_iff_exists.1 some_side
  obtain ⟨hp', hid⟩ := sideOf_eq_some hs
  by_cases hne : side' = side
  · rw [hs, hne]
  · have both : row.coupling = .coupled := by
      cases side <;> cases side' <;>
        first
        | exact absurd rfl hne
        | exact coupling_eq_coupled_iff.2 ⟨hp, hp'⟩
        | exact coupling_eq_coupled_iff.2 ⟨hp', hp⟩
    have differ := (h.coupled both).1
    cases side <;> cases side' <;>
      first
      | exact absurd rfl hne
      | exact absurd hid differ
      | exact absurd hid.symm differ

/-- Who retracts leaves the other partner behind, or nothing. -/
theorem Sound.retracted_fate (h : row.Sound) (hs : row.sideOf id = some side) :
    row.Left (.retract row.key id) (row.retracted side) ∨
      row.Withdrawn (.retract row.key id) (row.retracted side) := by
  obtain ⟨hp, rfl⟩ := sideOf_eq_some hs
  have used := h.not_free_of_present hp
  cases hc : row.coupling with
  | none => exact absurd hc (h.coupling_ne_none used)
  | offered =>
    have hside := Sound.side_of_offered hc hp
    subst hside
    exact .inr ⟨hc, retracted_of_offered hc, rfl⟩
  | coupled =>
    have remains : (row.partner side.other).Present := by
      obtain ⟨ho, ha⟩ := coupling_eq_coupled_iff.1 hc
      cases side <;> assumption
    refine .inl ?_
    rw [retracted_of_coupled hc used]
    exact
      { before := hc
        after := coupling_eq_offered_iff.2 ⟨remains, Partner.not_present_target _⟩
        key := rfl
        name := rfl
        state := state_of_code rfl
        departure := ⟨side, rfl, rfl, rfl, rfl⟩ }

/-- Taking partners out of a row does not make it coupled. -/
theorem TakesOut.not_coupled {which : Partner → Bool} (h : row.TakesOut which row') :
    row'.coupling ≠ .coupled := by
  obtain ⟨side, -, -, left | withdrawn⟩ := h
  · rw [left.after]
    decide
  · rw [withdrawn.after, coupling_empty]
    decide

/-- A row that is coupled after partners have been taken out of it is one that none were taken out
of. -/
theorem eq_of_takesOut {which : Partner → Bool} (h : ReflTransGen (TakesOut which) row row')
    (hc : row'.coupling = .coupled) : row' = row := by
  cases h with
  | refl => rfl
  | tail _ last => exact absurd hc last.not_coupled

/-- A row that partners have been taken out of has its key, or it is free. -/
theorem key_of_takesOut {which : Partner → Bool} (h : ReflTransGen (TakesOut which) row row') :
    row'.key = row.key ∨ row' = .empty := by
  induction h with
  | refl => exact .inl rfl
  | tail _ last ih =>
    obtain ⟨side, present, -, left | withdrawn⟩ := last
    · rcases ih with ih | rfl
      · exact .inl (left.key.trans ih)
      · exact absurd present (not_present_partner_empty side)
    · exact .inr withdrawn.after

end Row

theorem RowStep.flags {rows rows' : Vector Row rowCapacity}
    (h : RowStep (fun _ => False) rows rows') (j : RowIndex) :
    (rows'.get j).bare = (rows.get j).bare ∧ (rows'.get j).stateCode = (rows.get j).stateCode := by
  have replaced {i : RowIndex} {row : Row} (hb : row.bare = (rows.get i).bare)
      (hs : row.stateCode = (rows.get i).stateCode) :
      ((put rows i row).get j).bare = (rows.get j).bare ∧
        ((put rows i row).get j).stateCode = (rows.get j).stateCode := by
    rw [get_put]
    split
    · rename_i hij
      subst hij
      exact ⟨hb, hs⟩
    · exact ⟨rfl, rfl⟩
  cases h with
  | mark i side => exact replaced (Row.bare_markEvent ..) (Row.stateCode_withPartner ..)
  | unmark i id =>
    refine replaced (Row.bare_clearEvent ..) ?_
    rw [Row.clearEvent]
    split
    · exact Row.stateCode_withPartner ..
    · rfl
  | restrict i side control present acts => exact acts.elim
  | access i side state present acts => exact acts.elim
  | accept i name addressee p present acts => exact acts.elim
  | offer i key name addressee p told free present acts => exact acts.elim
  | leave i side present acts => exact acts.elim

namespace Registry

variable {r r' : Registry} {op : Operation}

/-! ## Operations that keep all rows -/

/-- What is done for no partner changes only flags: marks for events. -/
theorem Evolves.flags {enrolls : ProcessorId → Prop} (h : r.Evolves (fun _ => False) enrolls r')
    (j : RowIndex) :
    (r'.rows.get j).bare = (r.rows.get j).bare ∧
      (r'.rows.get j).stateCode = (r.rows.get j).stateCode := by
  obtain ⟨rows, -⟩ := h
  generalize r'.rows = rows' at rows ⊢
  induction rows with
  | refl => exact ⟨rfl, rfl⟩
  | tail _ step ih =>
    obtain ⟨hb, hs⟩ := step.flags j
    exact ⟨hb.trans ih.1, hs.trans ih.2⟩

theorem Evolves.kept {enrolls : ProcessorId → Prop} (h : r.Evolves (fun _ => False) enrolls r')
    (op : Operation) (j : RowIndex) : (r.rows.get j).Kept op (r'.rows.get j) :=
  ⟨(h.flags j).1, .inl (h.flags j).2⟩

/-- The row that a partner uses or sets gets the access state that says so; the others stay. -/
theorem setState_row {key : Key} {id : ProcessorId} {i : RowIndex} {side : Side}
    (hc : r.callerRow key id = some (i, side)) (used : Bool) (j : RowIndex) :
    ((r.setState key id used).registry.rows.get j).bare = (r.rows.get j).bare ∧
      ((r.setState key id used).registry.rows.get j).stateCode =
        if i = j then (r.rows.get i).accessCode side used else (r.rows.get j).stateCode := by
  have told {state : AccessState} (hs : state.code = (r.rows.get i).accessCode side used)
      {r' : Registry}
      (e : Evolves (fun _ => False) (fun _ => False) (r.modifyRow i (·.withState state)) r') :
      (r'.rows.get j).bare = (r.rows.get j).bare ∧
        (r'.rows.get j).stateCode =
          if i = j then (r.rows.get i).accessCode side used else (r.rows.get j).stateCode := by
    rw [(e.flags j).1, (e.flags j).2, modifyRow, get_put]
    split
    · rename_i hij
      subst hij
      exact ⟨rfl, hs⟩
    · exact ⟨rfl, rfl⟩
  simp only [setState, hc]
  cases used with
  | true =>
    by_cases own : ((r.rows.get i).view side).2 = .offeringHasSet
    · have same : (r.rows.get i).accessCode side true = (r.rows.get i).stateCode := if_pos own
      rw [if_pos rfl, if_pos own, same]
      refine ⟨rfl, ?_⟩
      split
      · rename_i hij
        rw [hij]
        rfl
      · rfl
    · have idle : AccessState.idle.code = (r.rows.get i).accessCode side true := (if_neg own).symm
      rw [if_pos rfl, if_neg own]
      split
      · exact told idle (fireEvent_evolves ..)
      · exact told idle (.refl _)
  | false =>
    have set : (stateSetBy side).code = (r.rows.get i).accessCode side false := rfl
    rw [if_neg Bool.false_ne_true]
    split
    · exact told set (fireEvent_evolves ..)
    · exact told set (.refl _)

theorem setState_kept (key : Key) (id : ProcessorId) (used : Bool) (j : RowIndex) :
    (r.rows.get j).Kept (.setState key id used) ((r.setState key id used).registry.rows.get j) := by
  cases hc : r.callerRow key id with
  | none =>
    rw [setState, hc]
    exact .refl ..
  | some place =>
    obtain ⟨i, side⟩ := place
    obtain ⟨hb, hs⟩ := setState_row hc used j
    refine ⟨hb, ?_⟩
    by_cases hij : i = j
    · obtain rfl := hij
      obtain ⟨hi, hs⟩ := callerRow_eq_some hc
      rw [(findVar_eq_some hi).2]
      exact .inr ⟨side, used, by rw [(Row.sideOf_eq_some hs).2]⟩
    · rw [if_neg hij] at hs
      exact .inl hs

theorem setControl_kept (key : Key) (id : ProcessorId) (control : Control) (j : RowIndex) :
    (r.rows.get j).Kept (.setControl key id control)
      ((r.setControl key id control).registry.rows.get j) := by
  simp only [setControl]
  split
  · exact .refl ..
  rename_i i side hc
  have told {r' : Registry} (e : Evolves (fun _ => False) (fun _ => False)
      (r.modifyRow i (·.withControl side control)) r') :
      (r.rows.get j).Kept (.setControl key id control) (r'.rows.get j) := by
    obtain ⟨hb, hs⟩ := e.flags j
    rw [modifyRow, get_put] at hb hs
    split at hb
    · rename_i hij
      rw [if_pos hij] at hs
      subst hij
      exact ⟨hb.trans (Row.bare_withControl ..), .inl (hs.trans (Row.stateCode_withPartner ..))⟩
    · rename_i hij
      rw [if_neg hij] at hs
      exact ⟨hb, .inl hs⟩
  split
  · exact told (fireEvent_evolves ..)
  · exact told (.refl _)

/-! ## Operations that change one row -/

/-- Each row is kept, or one row meets another fate and the others stay as they are. -/
def Changes (r : Registry) (op : Operation) (r' : Registry) : Prop :=
  (∀ i : RowIndex, (r.rows.get i).Kept op (r'.rows.get i)) ∨
    ∃ (i : RowIndex) (fate : Fate), (r.rows.get i).Meets r op (r'.rows.get i) fate ∧
      ∀ j : RowIndex, j ≠ i → r'.rows.get j = r.rows.get j

theorem Changes.of_rows (op : Operation) (h : r'.rows = r.rows) : r.Changes op r' :=
  .inl fun i => by rw [h]; exact .refl ..

theorem Changes.of_put (fate : Fate) {i : RowIndex} {row : Row} (hr : r'.rows = put r.rows i row)
    (h : (r.rows.get i).Meets r op row fate) : r.Changes op r' := by
  refine .inr ⟨i, fate, ?_, fun j hj => ?_⟩
  · rwa [hr, get_put, if_pos rfl]
  · rw [hr, get_put, if_neg (Ne.symm hj)]

/-- Each row meets some fate. -/
theorem Changes.meets (h : r.Changes op r') (j : RowIndex) :
    ∃ fate, (r.rows.get j).Meets r op (r'.rows.get j) fate := by
  rcases h with kept | ⟨i, fate, meets, same⟩
  · exact ⟨.kept, kept j⟩
  · by_cases hj : j = i
    · exact ⟨fate, hj ▸ meets⟩
    · refine ⟨.kept, ?_⟩
      rw [same j hj]
      exact .refl ..

theorem Changes.eq_of_not_kept (h : r.Changes op r') {i j : RowIndex}
    (hi : ¬(r.rows.get i).Kept op (r'.rows.get i)) (hj : ¬(r.rows.get j).Kept op (r'.rows.get j)) :
    i = j := by
  rcases h with kept | ⟨k, -, -, same⟩
  · exact absurd (kept i) hi
  · have only {j : RowIndex} (hj : ¬(r.rows.get j).Kept op (r'.rows.get j)) : j = k := by
      by_contra hjk
      rw [same j hjk] at hj
      exact hj (.refl ..)
    rw [only hi, only hj]

theorem matchPendingOffer_changes {name : Name} {addressee : ProcessorId} {p : Partner}
    (present : p.Present)
    (hop : op = .matchOrMake name addressee p ∨ op = .matchPendingOffer name addressee p present) :
    r.Changes op (r.matchPendingOffer name addressee p).registry := by
  cases hi : r.findPending name addressee p.id with
  | none => exact .of_rows op (by simp only [matchPendingOffer, hi]; rfl)
  | some i =>
    refine .of_put .taken (matchPendingOffer_of_pending hi).2 ?_
    obtain ⟨offered, -, meant⟩ := Row.isCompletedBy_iff.1 (first?_eq_some_iff.1 hi).1
    exact
      { before := offered
        after := Row.coupling_eq_coupled_iff.2 ⟨(Row.coupling_eq_offered_iff.1 offered).1, present⟩
        key := rfl
        offering := rfl
        control := rfl
        acceptance := ⟨name, addressee, p, hop.imp_right fun h => ⟨present, h⟩,
          Row.canCouple_target meant, rfl⟩ }

theorem createOffer_changes (h : r.WellFormed) {name : Name} {addressee : ProcessorId} {p : Partner}
    (hop : op = .matchOrMake name addressee p ∨ op = .createOffer name addressee p) :
    r.Changes op (r.createOffer name addressee p).registry := by
  by_cases hp : p.Present
  · cases hi : first? r.rows (fun row => row.Free) with
    | none => exact .of_rows op (by rw [createOffer_of_full name addressee hp hi]; rfl)
    | some i =>
      have free : (r.rows.get i).Free := by simpa using (first?_eq_some_iff.1 hi).1
      obtain ⟨key, told, untaken, -, -, hrows⟩ := createOffer_of_free name addressee hp hi
      refine .of_put .made hrows ?_
      exact
        { before := (h.rows.sound i).free free
          after := Row.coupling_eq_offered_iff.2 ⟨hp, fun present => present.1 rfl⟩
          fresh := untaken
          offer := ⟨name, addressee, p, hop, rfl, rfl, rfl⟩ }
  · exact .of_rows op (by rw [createOffer_of_absent name addressee hp]; rfl)

theorem matchOrMake_changes (h : r.WellFormed) (name : Name) (addressee : ProcessorId)
    (p : Partner) :
    r.Changes (.matchOrMake name addressee p) (r.matchOrMake name addressee p).registry := by
  by_cases hp : p.Present
  · cases hi : r.findPending name addressee p.id with
    | none =>
      have made : (r.matchOrMake name addressee p).registry =
          (r.createOffer name addressee p).registry := by
        simp only [matchOrMake, hp, ↓reduceIte, matchPendingOffer, hi, Outcome.andThen, unchanged]
      rw [made]
      exact createOffer_changes h (.inl rfl)
    | some i =>
      have matched : (r.matchOrMake name addressee p).registry =
          (r.matchPendingOffer name addressee p).registry := by
        simp only [matchOrMake, hp, ↓reduceIte, Outcome.andThen,
          (matchPendingOffer_of_pending hi).1, unchanged]
      rw [matched]
      exact matchPendingOffer_changes hp (.inl rfl)
  · exact .of_rows _ (by rw [matchOrMake, if_neg hp]; rfl)

theorem retract_changes (h : r.WellFormed) (key : Key) (id : ProcessorId) :
    r.Changes (.retract key id) (r.retract key id).registry := by
  rcases retract_rows (r := r) key id with hr | ⟨i, side, hi, hs, hr⟩
  · exact .of_rows _ hr
  have hkey := (findVar_eq_some hi).2
  rcases (h.rows.sound i).retracted_fate hs with left | withdrawn
  · exact .of_put .left hr (hkey ▸ left)
  · exact .of_put .withdrawn hr (hkey ▸ withdrawn)

/-- An operation that does not go through the table changes who shares what in one row at most, and
there in one of four ways. -/
theorem perform_changes (h : r.WellFormed) (single : op.sweeps? = none) :
    r.Changes op (r.perform op).registry := by
  have kept {enrolls : ProcessorId → Prop} {r' : Registry}
      (e : r.Evolves (fun _ => False) enrolls r') : r.Changes op r' := .inl (e.kept op)
  have quiet {r' : Registry} (e : r.Evolves (fun _ => False) (fun _ => False) r') :
      r.Changes op r' := kept e
  cases op with
  | matchOrMake name addressee p => exact matchOrMake_changes h name addressee p
  | createOffer name addressee p => exact createOffer_changes h (.inr rfl)
  | matchPendingOffer name addressee p present => exact matchPendingOffer_changes present (.inr rfl)
  | retract key id => exact retract_changes h key id
  | retractAllOf pid => cases single
  | retractAllBy id => cases single
  | setState key id used => exact .inl (setState_kept key id used)
  | setControl key id control => exact .inl (setControl_kept key id control)
  | mayUse key id attempt => exact quiet (mayAccess_evolves r key id attempt _ _)
  | maySet key id attempt => exact quiet (mayAccess_evolves r key id attempt _ _)
  | addEvent event id key => exact quiet (addEvent_evolves r event id key)
  | clearEvent key id => exact quiet (clearEvent_evolves r key id)
  | clearAllEvents id => exact quiet (clearAllEvents_evolves r id)
  | registerProcessor id pid port => exact kept (registerProcessor_evolves r id pid port)
  | unregisterProcessor id => exact kept (unregisterProcessor_evolves r id)
  | unregisterPid pid => exact kept (unregisterWhere_evolves r (· = pid))
  | removeStale alive => cases single

/-! ## Operations that go through the table -/

theorem retract_of_present (h : r.WellFormed) (present : ((r.rows.get i).partner side).Present) :
    r.retract (r.rows.get i).key ((r.rows.get i).partner side).id =
      (r.retractSide i side).map fun _ => (r.rows.get i).coupling := by
  have sound := h.rows.sound i
  exact retract_eq_retractSide (h.findVar_key (sound.not_free_of_present present))
    (sound.sideOf_id present)

/-- A partner that retracts leaves its row, and no other. -/
theorem retract_row (h : r.WellFormed) (present : ((r.rows.get i).partner side).Present)
    (j : RowIndex) :
    (r.retract (r.rows.get i).key ((r.rows.get i).partner side).id).registry.rows.get j =
      if i = j then (r.rows.get i).retracted side else r.rows.get j := by
  rw [retract_of_present h present, Outcome.map, retractSide_rows, get_put]

/-- Going through the table takes partners out of every row, one after the other. -/
theorem sumRows_takesOut {which : Partner → Bool} {leaving : Row → Option ProcessorId}
    (finds : ∀ row id, leaving row = some id → ∃ side, (row.partner side).Present ∧
      which (row.partner side) = true ∧ (row.partner side).id = id) (fuel : Nat)
    (h : r.WellFormed) (j : RowIndex) :
    ReflTransGen (Row.TakesOut which) (r.rows.get j)
      ((sumRows (fun i => retractWhile leaving i fuel) r).registry.rows.get j) := by
  let P (r' : Registry) : Prop := r'.WellFormed ∧
    ∀ j : RowIndex, ReflTransGen (Row.TakesOut which) (r.rows.get j) (r'.rows.get j)
  have step (i : RowIndex) (r' : Registry) (id : ProcessorId) (hr : P r')
      (hid : leaving (r'.rows.get i) = some id) : P (r'.retract (r'.rows.get i).key id).registry := by
    obtain ⟨well, before⟩ := hr
    refine ⟨well.retract _ id, fun j => ?_⟩
    obtain ⟨side, present, found, rfl⟩ := finds _ _ hid
    rw [retract_row well present]
    split
    · rename_i hij
      subst hij
      have sound := well.rows.sound i
      exact (before i).tail ⟨side, present, found, sound.retracted_fate (sound.sideOf_id present)⟩
    · exact before j
  have all : P (sumRows (fun i => retractWhile leaving i fuel) r).registry :=
    sumRows_invariant (fun i _ hr => retractWhile_invariant (step i) fuel hr) ⟨h, fun _ => .refl⟩
  exact all.2 j

theorem perform_takesOut (h : r.WellFormed) {which : Partner → Bool}
    (bulk : op.sweeps? = some which) (j : RowIndex) :
    ReflTransGen (Row.TakesOut which) (r.rows.get j) ((r.perform op).registry.rows.get j) := by
  have found {which : Partner → Bool} (row : Row) (id : ProcessorId)
      (hid : (row.sideWith which).map (fun side => (row.partner side).id) = some id) :
      ∃ side, (row.partner side).Present ∧ which (row.partner side) = true ∧
        (row.partner side).id = id := by
    obtain ⟨side, hs, rfl⟩ := Option.map_eq_some_iff.1 hid
    obtain ⟨present, hw⟩ := Row.sideWith_eq_some hs
    exact ⟨side, present, hw, rfl⟩
  cases op <;> cases bulk
  case retractAllOf pid =>
    simp only [perform, Outcome.map]
    refine sumRows_takesOut (fun row id hid => ?_) 2 h j
    exact found row id hid
  case retractAllBy id =>
    simp only [perform, Outcome.map]
    refine sumRows_takesOut (fun row id' hid => ?_) 1 h j
    obtain ⟨side, hs, rfl⟩ := Option.map_eq_some_iff.1 hid
    obtain ⟨present, hw⟩ := Row.sideOf_eq_some hs
    exact ⟨side, present, decide_eq_true hw, hw⟩
  case removeStale alive =>
    simp only [perform, Outcome.map]
    rw [removeStale_registry]
    have cleared : (r.unregisterWhere (!alive ·.pid)).registry.WellFormed :=
      h.unregisterWhere (!alive ·)
    refine sumRows_takesOut (fun row id hid => ?_) 2 cleared j
    simp only [leavingDead] at hid
    split at hid
    · cases hid
    · exact found row id hid

/-! ## All operations -/

/-- The life of a row. An operation that is done for one partner keeps the variable of a row and who
shares it, or changes them in exactly one of four ways, and it changes them in one row at most. An
operation that goes through the table makes each row what a sequence of retracts makes of it. -/
theorem row_lifecycle (h : r.Reachable) (op : Operation) :
    let r' := (r.perform op).registry
    match op.sweeps? with
    | none =>
      (∀ i : RowIndex, ∃! fate, (r.rows.get i).Meets r op (r'.rows.get i) fate) ∧
        ∀ i j : RowIndex, ¬(r.rows.get i).Kept op (r'.rows.get i) →
          ¬(r.rows.get j).Kept op (r'.rows.get j) → i = j
    | some which =>
      ∀ i : RowIndex, ReflTransGen (Row.TakesOut which) (r.rows.get i) (r'.rows.get i) := by
  intro r'
  split
  · rename_i single
    have changes := perform_changes h.wellFormed single
    refine ⟨fun i => ?_, fun _ _ => changes.eq_of_not_kept⟩
    obtain ⟨fate, meets⟩ := changes.meets i
    exact ⟨fate, meets, fun _ meets' => meets'.unique meets⟩
  · rename_i which bulk
    exact perform_takesOut h.wellFormed bulk

/-- The partner that has made an offer leaves the one that has taken it up. -/
theorem row_lifecycle_of_retract :
    let a := Partner.ofProcess (.single 1001) 10 0
    let b := Partner.ofProcess (.single 1002) 20 0
    let name := Name.ofText "LEVEL"
    let r := empty.run [.matchOrMake name .general a, .matchOrMake name a.id b]
    let op := Operation.retract (r.rows.get 0).key a.id
    let r' := (r.perform op).registry
    (r.rows.get 0).Left op (r'.rows.get 0) ∧
      ∀ j : RowIndex, j ≠ 0 → (r.rows.get j).Kept op (r'.rows.get j) := by
  intro a b name r op r'
  obtain ⟨fates, one⟩ := row_lifecycle (r := r) ⟨_, rfl⟩ op
  obtain ⟨fate, meets, -⟩ := fates 0
  have leaves : fate = .left := meets.eq_ofCouplings.trans (by decide +kernel)
  subst leaves
  refine ⟨meets, fun j hj => ?_⟩
  by_contra changed
  refine hj (one j 0 changed fun kept => ?_)
  have stays : (r.rows.get 0).Meets r op (r'.rows.get 0) .kept := kept
  exact absurd (meets.unique stays) (by decide)

end Registry

end SharedVariables
