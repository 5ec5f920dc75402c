import SharedVariables.Proofs.Registry.Gating

/-!
# Whose control bits they are

The control bits that a partner sees are put together from its own and those of the other partner. Its own
are those that it has asked for last since it has become a partner of the variable (`OwnControl`), on
whichever side of the row it is now. An operation leaves every partner its bits, or gives it those that it
asks for; and who becomes a partner begins without any (`perform_follows`, by a case for each operation).
So the bits kept are those of the last request (`perform_ownBits`, `run_ownBits`). A side that nobody fills
in has none (`run_absent`), so a partner that is alone sees just its own. `control_follows_partners` puts
this together.
-/

namespace SharedVariables

open Relation

namespace Control

theorem union_none (c : Control) : c.union none = c := by
  simp only [union, none, Bool.or_false]

theorem union_comm (a b : Control) : a.union b = b.union a := by
  simp only [union, Bool.or_comm]

end Control

/-- The control bits that an operation gives the processor `id` on the variable `key`. -/
def Operation.control? (key : Key) (id : ProcessorId) : Operation → Option Control
  | setControl k x control => if k = key ∧ x = id then some control else none
  | _ => none

/-- All control bits that the processor `id` asks for on the variable `key` in a run, first to last. -/
def controlsOf (key : Key) (id : ProcessorId) (ops : List Operation) : List Control :=
  ops.filterMap (Operation.control? key id)

namespace Row

variable {row row' row'' : Row}

/-- What a partner sees are its own bits, and those of the other side from the opposite point of view. -/
theorem view_control (row : Row) (side : Side) :
    (row.view side).1 = (row.partner side).flags.control.union
      (row.partner side.other).flags.control.mirror := by
  cases side with
  | offering => rfl
  | accepting =>
    exact (Control.mirror_union ..).trans ((Control.union_comm ..).trans
      (congrArg (Control.union · _) (Control.mirror_mirror _)))

theorem view_control_other (row : Row) (side : Side) :
    (row.view side.other).1 = (row.view side).1.mirror := by
  cases side
  · rfl
  · exact (Control.mirror_mirror _).symm

theorem control_markEvent (row : Row) (marked side : Side) :
    ((row.markEvent marked).partner side).flags.control = (row.partner side).flags.control := by
  cases marked <;> cases side <;> rfl

theorem control_clearEvent (row : Row) (id : ProcessorId) (side : Side) :
    ((row.clearEvent id).partner side).flags.control = (row.partner side).flags.control := by
  rw [clearEvent]
  split
  · rename_i own _
    cases own <;> cases side <;> rfl
  · rfl

theorem control_withState (row : Row) (state : AccessState) (side : Side) :
    ((row.withState state).partner side).flags.control = (row.partner side).flags.control := by
  cases side <;> rfl

theorem control_withControl (row : Row) (restricted side : Side) (control : Control) :
    ((row.withControl restricted control).partner side).flags.control =
      if restricted = side then control else (row.partner side).flags.control := by
  cases restricted <;> cases side <;> rfl

/-- Whoever is a partner in a row has been one before, of the same variable and with the same control
bits. -/
def AddsNobody (row row' : Row) : Prop :=
  ∀ side', (row'.partner side').Present → row'.key = row.key ∧
    ∃ side, (row'.partner side').bare = (row.partner side).bare ∧
      (row'.partner side').flags.control = (row.partner side).flags.control

namespace AddsNobody

theorem of_bare (bare : row'.bare = row.bare)
    (control : ∀ side, (row'.partner side).flags.control = (row.partner side).flags.control) :
    row.AddsNobody row' :=
  fun side _ => ⟨key_of_bare bare, side, partner_of_bare bare side, control side⟩

theorem refl (row : Row) : row.AddsNobody row := of_bare rfl fun _ => rfl

theorem trans (h : row.AddsNobody row') (h' : row'.AddsNobody row'') : row.AddsNobody row'' := by
  intro side present
  obtain ⟨key', side', bare', control'⟩ := h' side present
  rw [← Partner.present_bare, bare', Partner.present_bare] at present
  obtain ⟨key, side₀, bare, control⟩ := h side' present
  exact ⟨key'.trans key, side₀, bare'.trans bare, control'.trans control⟩

theorem empty (row : Row) : row.AddsNobody .empty :=
  fun side present => absurd present (not_present_partner_empty side)

/-- Who stays when the other partner leaves takes its control bits along. -/
theorem of_left {op : Operation} (left : row.Left op row') : row.AddsNobody row' := by
  obtain ⟨-, after, key, -, -, side, -, -, bare, control⟩ := left
  intro side' present
  obtain rfl := Sound.side_of_offered after present
  exact ⟨key, side.other, bare, control⟩

theorem of_takesOut {which : Partner → Bool} (taken : row.TakesOut which row') :
    row.AddsNobody row' := by
  obtain ⟨side, -, -, left | withdrawn⟩ := taken
  · exact of_left left
  · rw [withdrawn.after]
    exact empty row

end AddsNobody

end Row

namespace Registry

variable {r r' : Registry} {op : Operation} {key : Key} {x y : ProcessorId} {i : RowIndex} {side : Side}

/-- Whether the processor `id` is a partner of the variable `key`. -/
def IsPartner (r : Registry) (key : Key) (id : ProcessorId) : Prop := (r.callerRow key id).isSome

instance (r : Registry) (key : Key) (id : ProcessorId) : Decidable (r.IsPartner key id) :=
  inferInstanceAs (Decidable ((r.callerRow key id).isSome = true))

/-- The control bits that are kept for the processor `id` on its side of the variable `key`. -/
def ownBits (r : Registry) (key : Key) (id : ProcessorId) : Option Control :=
  (r.callerRow key id).map fun (i, side) => ((r.rows.get i).partner side).flags.control

/-- The operation `op` has made the processor `x` a partner of the variable `key` in the course of a run,
and it has been one since. -/
structure Joins (key : Key) (x : ProcessorId) (before : List Operation) (op : Operation)
    (after : List Operation) : Prop where
  outside : ¬(empty.run before).IsPartner key x
  since : Throughout (fun r op => (r.perform op).registry) (·.IsPartner key x)
    (empty.run (before ++ [op])) after

/-- The control bits that the processor `x` has asked for last in a run since it has become a partner of
the variable `key`, or none if it has not asked for any since. -/
def OwnControl (key : Key) (x : ProcessorId) (ops : List Operation) (control : Control) : Prop :=
  ∃ before op after, ops = before ++ op :: after ∧ Joins key x before op after ∧
    (controlsOf key x after).getLast?.getD .none = control

/-! ## Where a partner is -/

theorem callerRow_of_present (h : r.WellFormed) (present : ((r.rows.get i).partner side).Present) :
    r.callerRow (r.rows.get i).key ((r.rows.get i).partner side).id = some (i, side) := by
  have sound := h.rows.sound i
  simp only [callerRow, h.findVar_key (sound.not_free_of_present present), sound.sideOf_id present,
    Option.bind_eq_bind, Option.bind_some]
  rfl

/-- A partner is coupled with whoever is on the other side of its row. -/
theorem couples_of_callerRow (hc : r.callerRow key x = some (i, side))
    (present : ((r.rows.get i).partner side.other).Present) :
    r.Couples key x ((r.rows.get i).partner side.other).id := by
  obtain ⟨hi, hs⟩ := callerRow_eq_some hc
  obtain ⟨own, rfl⟩ := Row.sideOf_eq_some hs
  refine ⟨i, hi, ?_, ?_⟩
  · cases side
    · exact Row.coupling_eq_coupled_iff.2 ⟨own, present⟩
    · exact Row.coupling_eq_coupled_iff.2 ⟨present, own⟩
  · cases side
    · exact .inl ⟨rfl, rfl⟩
    · exact .inr ⟨rfl, rfl⟩

theorem isPartner_iff : r.IsPartner key x ↔ ∃ i side, r.callerRow key x = some (i, side) := by
  rw [IsPartner, Option.isSome_iff_exists, Prod.exists]

theorem ownBits_of_callerRow (hc : r.callerRow key x = some (i, side)) :
    r.ownBits key x = some ((r.rows.get i).partner side).flags.control := by
  rw [ownBits, hc, Option.map_some]

/-- There are no partners of a variable that does not exist. -/
theorem not_isPartner_of_untaken (h : r.Untaken key) (x : ProcessorId) : ¬r.IsPartner key x := by
  rw [isPartner_iff]
  rintro ⟨i, side, hc⟩
  have taken := (callerRow_eq_some hc).1
  rw [h.2] at taken
  cases taken

end Registry

/-! ## What becomes of a partner -/

/-- Events do not touch control bits. -/
theorem RowStep.control {rows rows' : Vector Row rowCapacity}
    (h : RowStep (fun _ => False) rows rows') (j : RowIndex) (side : Side) :
    ((rows'.get j).partner side).flags.control = ((rows.get j).partner side).flags.control := by
  have replaced {i : RowIndex} {row : Row}
      (same : ∀ side, (row.partner side).flags.control = ((rows.get i).partner side).flags.control) :
      (((put rows i row).get j).partner side).flags.control =
        ((rows.get j).partner side).flags.control := by
    rw [get_put]
    split
    · rename_i hij
      rw [same, hij]
    · rfl
  cases h with
  | mark i marked => exact replaced (Row.control_markEvent _ marked)
  | unmark i id => exact replaced (Row.control_clearEvent _ id)
  | restrict i side control present acts => exact acts.elim
  | access i side state present acts => exact acts.elim
  | accept i name addressee p present acts => exact acts.elim
  | offer i key name addressee p told free present acts => exact acts.elim
  | leave i side present acts => exact acts.elim

namespace Registry

variable {r r' : Registry} {op : Operation} {key : Key} {x y : ProcessorId} {i : RowIndex} {side : Side}

theorem Evolves.control {enrolls : ProcessorId → Prop} (h : r.Evolves (fun _ => False) enrolls r')
    (j : RowIndex) (side : Side) :
    ((r'.rows.get j).partner side).flags.control = ((r.rows.get j).partner side).flags.control := by
  obtain ⟨rows, -⟩ := h
  generalize r'.rows = rows' at rows ⊢
  induction rows with
  | refl => rfl
  | tail _ step ih => exact (step.control j side).trans ih

/-- Each partner of a row after an operation has been a partner of the variable before, and has its control
bits or those that the operation gives it; or it is new to the variable, and has none. -/
def Follows (r : Registry) (op : Operation) (row row' : Row) : Prop :=
  ∀ side', (row'.partner side').Present →
    (row'.key = row.key ∧ ∃ side, (row'.partner side').bare = (row.partner side).bare ∧
      (row'.partner side').flags.control =
        (op.control? row.key (row.partner side).id).getD (row.partner side).flags.control) ∨
    (¬r.IsPartner row'.key (row'.partner side').id ∧ (row'.partner side').flags.control = .none)

namespace Follows

theorem of_addsNobody {row row' : Row} (silent : ∀ key id, op.control? key id = none)
    (h : row.AddsNobody row') : r.Follows op row row' := by
  intro side' present
  obtain ⟨key, side, bare, control⟩ := h side' present
  refine .inl ⟨key, side, bare, ?_⟩
  rw [silent, Option.getD_none, control]

theorem refl (silent : ∀ key id, op.control? key id = none) (row : Row) : r.Follows op row row :=
  of_addsNobody silent (.refl row)

/-- What is done for no partner changes no control bits. -/
theorem of_evolves {enrolls : ProcessorId → Prop} (silent : ∀ key id, op.control? key id = none)
    (e : r.Evolves (fun _ => False) enrolls r') (j : RowIndex) :
    r.Follows op (r.rows.get j) (r'.rows.get j) :=
  of_addsNobody silent (.of_bare (e.flags j).1 (e.control j))

/-- Whoever takes up an offer has not been a partner before. -/
theorem accept (h : r.WellFormed) (silent : ∀ key id, op.control? key id = none) {name : Name}
    {p : Partner} (offered : (r.rows.get i).coupling = .offered)
    (differ : (r.rows.get i).offering.id ≠ p.id) :
    r.Follows op (r.rows.get i) (((r.rows.get i).accept name p).markEvent .offering) := by
  intro side' _
  cases side' with
  | offering =>
    refine .inl ⟨rfl, .offering, rfl, ?_⟩
    rw [silent, Option.getD_none]
    rfl
  | accepting =>
    refine .inr ⟨?_, rfl⟩
    have ha := (Row.coupling_eq_offered_iff.1 offered).2
    rw [isPartner_iff]
    rintro ⟨j, side, hc⟩
    obtain ⟨hj, hs⟩ := callerRow_eq_some hc
    have found := h.findVar_key ((h.rows.sound i).not_free_of_coupling (offered.trans_ne nofun))
    obtain rfl : i = j := Option.some.inj (found.symm.trans hj)
    obtain ⟨present, same⟩ := Row.sideOf_eq_some hs
    cases side with
    | offering => exact differ same
    | accepting => exact ha present

/-- Whoever makes an offer is the first partner of a new variable. -/
theorem pending {row : Row} {name : Name} {addressee : ProcessorId} {p : Partner} {told : Bool}
    (untaken : r.Untaken key) : r.Follows op row (.pending key name addressee p told) := by
  intro side' present
  cases side' with
  | offering => exact .inr ⟨not_isPartner_of_untaken untaken _, rfl⟩
  | accepting => exact absurd rfl present.1

end Follows

theorem matchPendingOffer_follows (h : r.WellFormed) (silent : ∀ key id, op.control? key id = none)
    (name : Name) (addressee : ProcessorId) (p : Partner) (j : RowIndex) :
    r.Follows op (r.rows.get j) ((r.matchPendingOffer name addressee p).registry.rows.get j) := by
  cases hi : r.findPending name addressee p.id with
  | none =>
    simp only [matchPendingOffer, hi]
    exact .refl silent _
  | some i =>
    rw [(matchPendingOffer_of_pending hi).2, get_put]
    split
    · rename_i hij
      subst hij
      obtain ⟨offered, -, meant⟩ := Row.isCompletedBy_iff.1 (first?_eq_some_iff.1 hi).1
      exact .accept h silent offered (Row.canCouple_ne meant)
    · exact .refl silent _

theorem createOffer_follows (silent : ∀ key id, op.control? key id = none) (name : Name)
    (addressee : ProcessorId) (p : Partner) (j : RowIndex) :
    r.Follows op (r.rows.get j) ((r.createOffer name addressee p).registry.rows.get j) := by
  by_cases hp : p.Present
  · cases hi : first? r.rows (fun row => row.Free) with
    | none =>
      rw [createOffer_of_full name addressee hp hi]
      exact .refl silent _
    | some i =>
      obtain ⟨key, told, untaken, -, -, rows⟩ := createOffer_of_free name addressee hp hi
      rw [rows, get_put]
      split
      · exact .pending untaken
      · exact .refl silent _
  · rw [createOffer_of_absent name addressee hp]
    exact .refl silent _

theorem matchOrMake_follows (h : r.WellFormed) (silent : ∀ key id, op.control? key id = none)
    (name : Name) (addressee : ProcessorId) (p : Partner) (j : RowIndex) :
    r.Follows op (r.rows.get j) ((r.matchOrMake name addressee p).registry.rows.get j) := by
  have matched := matchPendingOffer_follows h silent name addressee p j
  by_cases hp : p.Present
  · cases hi : r.findPending name addressee p.id with
    | some i =>
      rw [(matchOrMake_of_pending hp hi).2, ← (matchPendingOffer_of_pending hi).2]
      exact matched
    | none =>
      have made : (r.matchOrMake name addressee p).registry =
          (r.createOffer name addressee p).registry := by
        simp only [matchOrMake, hp, ↓reduceIte, matchPendingOffer, hi, Outcome.andThen, unchanged]
      rw [made]
      exact createOffer_follows silent name addressee p j
  · rw [matchOrMake, if_neg hp]
    exact .refl silent _

theorem retract_follows (h : r.WellFormed) (silent : ∀ key id, op.control? key id = none) (key : Key)
    (id : ProcessorId) (j : RowIndex) :
    r.Follows op (r.rows.get j) ((r.retract key id).registry.rows.get j) := by
  refine .of_addsNobody silent ?_
  rcases retract_rows (r := r) key id with same | ⟨i, side, -, hs, rows⟩
  · rw [same]
    exact .refl _
  · rw [rows, get_put]
    split
    · rename_i hij
      subst hij
      rcases (h.rows.sound i).retracted_fate hs with left | withdrawn
      · exact .of_left left
      · rw [withdrawn.after]
        exact .empty _
    · exact .refl _

theorem sweep_follows (h : r.WellFormed) (silent : ∀ key id, op.control? key id = none)
    {which : Partner → Bool} (bulk : op.sweeps? = some which) (j : RowIndex) :
    r.Follows op (r.rows.get j) ((r.perform op).registry.rows.get j) := by
  refine .of_addsNobody silent ?_
  have taken := perform_takesOut h bulk j
  generalize (r.perform op).registry.rows.get j = row' at taken ⊢
  induction taken with
  | refl => exact .refl _
  | tail _ last ih => exact ih.trans (.of_takesOut last)

/-- Who uses or sets a variable does not change anybody's control bits. -/
theorem setState_control (key : Key) (id : ProcessorId) (used : Bool) (j : RowIndex) (side : Side) :
    (((r.setState key id used).registry.rows.get j).partner side).flags.control =
      ((r.rows.get j).partner side).flags.control := by
  simp only [setState]
  split
  · rfl
  rename_i i _ hc
  have told {state : AccessState} {r' : Registry}
      (e : Evolves (fun _ => False) (fun _ => False) (r.modifyRow i (·.withState state)) r') :
      ((r'.rows.get j).partner side).flags.control =
        ((r.rows.get j).partner side).flags.control := by
    rw [e.control, modifyRow, get_put]
    split
    · rename_i hij
      rw [Row.control_withState, hij]
    · rfl
  split
  · split
    · rfl
    split
    · exact told (fireEvent_evolves ..)
    · exact told (.refl _)
  · split
    · exact told (fireEvent_evolves ..)
    · exact told (.refl _)

theorem setControl_control (hc : r.callerRow key x = some (i, side)) (control : Control) (j : RowIndex)
    (side' : Side) :
    (((r.setControl key x control).registry.rows.get j).partner side').flags.control =
      if i = j ∧ side = side' then control else ((r.rows.get j).partner side').flags.control := by
  have told {r' : Registry} (e : Evolves (fun _ => False) (fun _ => False)
      (r.modifyRow i (·.withControl side control)) r') :
      ((r'.rows.get j).partner side').flags.control =
        if i = j ∧ side = side' then control else ((r.rows.get j).partner side').flags.control := by
    rw [e.control, modifyRow, get_put]
    split
    · rename_i hij
      simp only [Row.control_withControl, hij, true_and]
    · rename_i hij
      rw [if_neg fun h => hij h.1]
  simp only [setControl, hc]
  split
  · exact told (fireEvent_evolves ..)
  · exact told (.refl _)

/-- A partner gets the control bits that it asks for, and nobody else does. -/
theorem setControl_follows (h : r.WellFormed) (key : Key) (id : ProcessorId) (control : Control)
    (j : RowIndex) :
    r.Follows (.setControl key id control) (r.rows.get j)
      ((r.setControl key id control).registry.rows.get j) := by
  have kept := setControl_kept (r := r) key id control j
  intro side present
  have place := callerRow_of_present h ((Row.present_of_bare kept.bare side).1 present)
  refine .inl ⟨Row.key_of_bare kept.bare, side, Row.partner_of_bare kept.bare side, ?_⟩
  simp only [Operation.control?]
  cases hc : r.callerRow key id with
  | none =>
    have other : ¬(key = (r.rows.get j).key ∧ id = ((r.rows.get j).partner side).id) := by
      rintro ⟨rfl, rfl⟩
      rw [hc] at place
      cases place
    rw [if_neg other, setControl, hc]
    rfl
  | some caller =>
    obtain ⟨i, side₀⟩ := caller
    rw [setControl_control hc]
    by_cases here : i = j ∧ side₀ = side
    · obtain ⟨rfl, rfl⟩ := here
      obtain ⟨hi, hs⟩ := callerRow_eq_some hc
      have own : key = (r.rows.get i).key ∧ id = ((r.rows.get i).partner side₀).id :=
        ⟨(findVar_eq_some hi).2.symm, (Row.sideOf_eq_some hs).2.symm⟩
      rw [if_pos ⟨rfl, rfl⟩, if_pos own, Option.getD_some]
    · have other : ¬(key = (r.rows.get j).key ∧ id = ((r.rows.get j).partner side).id) := by
        rintro ⟨rfl, rfl⟩
        rw [hc] at place
        cases place
        exact here ⟨rfl, rfl⟩
      rw [if_neg here, if_neg other, Option.getD_none]

/-- Every operation leaves a partner its control bits or gives it those that it asks for, and who becomes a
partner has none. -/
theorem perform_follows (h : r.WellFormed) (op : Operation) (j : RowIndex) :
    r.Follows op (r.rows.get j) ((r.perform op).registry.rows.get j) := by
  cases op with
  | matchOrMake name addressee p => exact matchOrMake_follows h (fun _ _ => rfl) name addressee p j
  | createOffer name addressee p => exact createOffer_follows (fun _ _ => rfl) name addressee p j
  | matchPendingOffer name addressee p present =>
    exact matchPendingOffer_follows h (fun _ _ => rfl) name addressee p j
  | retract key id => exact retract_follows h (fun _ _ => rfl) key id j
  | retractAllOf pid => exact sweep_follows h (fun _ _ => rfl) rfl j
  | retractAllBy id => exact sweep_follows h (fun _ _ => rfl) rfl j
  | setState key id used =>
    exact .of_addsNobody (fun _ _ => rfl)
      (.of_bare (setState_kept key id used j).bare (setState_control key id used j))
  | setControl key id control => exact setControl_follows h key id control j
  | mayUse key id attempt =>
    exact .of_evolves (fun _ _ => rfl) (perform_evolves r (.mayUse key id attempt)) j
  | maySet key id attempt =>
    exact .of_evolves (fun _ _ => rfl) (perform_evolves r (.maySet key id attempt)) j
  | addEvent event id key =>
    exact .of_evolves (fun _ _ => rfl) (perform_evolves r (.addEvent event id key)) j
  | clearEvent key id => exact .of_evolves (fun _ _ => rfl) (perform_evolves r (.clearEvent key id)) j
  | clearAllEvents id => exact .of_evolves (fun _ _ => rfl) (perform_evolves r (.clearAllEvents id)) j
  | registerProcessor id pid port =>
    exact .of_evolves (fun _ _ => rfl) (perform_evolves r (.registerProcessor id pid port)) j
  | unregisterProcessor id =>
    exact .of_evolves (fun _ _ => rfl) (perform_evolves r (.unregisterProcessor id)) j
  | unregisterPid pid => exact .of_evolves (fun _ _ => rfl) (perform_evolves r (.unregisterPid pid)) j
  | removeStale alive => exact sweep_follows h (fun _ _ => rfl) rfl j

/-! ## What is kept for a partner -/

/-- The bits of a partner after an operation are those that it asks for, or those that it had, or none if
it has not been a partner before. -/
theorem perform_ownBits (h : r.WellFormed) (after : (r.perform op).registry.IsPartner key x) :
    (r.perform op).registry.ownBits key x =
      if r.IsPartner key x then (op.control? key x).or (r.ownBits key x) else some .none := by
  obtain ⟨j, side', hc⟩ := isPartner_iff.1 after
  obtain ⟨hj, hs⟩ := callerRow_eq_some hc
  obtain ⟨present, rfl⟩ := Row.sideOf_eq_some hs
  have hkey := (findVar_eq_some hj).2
  rw [ownBits_of_callerRow hc]
  rcases perform_follows h op j side' present with ⟨sameKey, side, bare, control⟩ | ⟨new, none⟩
  · have sameId : (((r.perform op).registry.rows.get j).partner side').id =
        ((r.rows.get j).partner side).id := (congrArg Partner.id bare :)
    have before : ((r.rows.get j).partner side).Present := by
      rwa [← Partner.present_bare, ← bare, Partner.present_bare]
    have place := callerRow_of_present h before
    rw [← hkey, sameKey, sameId, if_pos (isPartner_iff.2 ⟨j, side, place⟩), ownBits_of_callerRow place,
      control]
    cases op.control? (r.rows.get j).key ((r.rows.get j).partner side).id <;> rfl
  · rw [hkey] at new
    rw [if_neg new, none]

/-- While a processor is a partner its bits are those that it has asked for last. -/
theorem run_ownBits (h : r.WellFormed) {ops : List Operation}
    (stays : Throughout (fun r op => (r.perform op).registry) (·.IsPartner key x) r ops) :
    (r.run ops).ownBits key x = (controlsOf key x ops).getLast?.or (r.ownBits key x) := by
  induction ops generalizing r with
  | nil => rfl
  | cons op ops ih =>
    obtain ⟨before, since⟩ := throughout_cons.1 stays
    have last : (controlsOf key x (op :: ops)).getLast? =
        (controlsOf key x ops).getLast?.or (op.control? key x) := by
      rw [controlsOf, List.filterMap_cons]
      cases op.control? key x with
      | none => exact Option.or_none.symm
      | some control => exact List.getLast?_append (l := [control])
    calc (r.run (op :: ops)).ownBits key x
      _ = (controlsOf key x ops).getLast?.or ((r.perform op).registry.ownBits key x) :=
        ih (h.perform op) since
      _ = (controlsOf key x ops).getLast?.or ((op.control? key x).or (r.ownBits key x)) := by
        rw [perform_ownBits h since.start, if_pos before]
      _ = _ := by rw [last, Option.or_assoc]

theorem OwnControl.ownBits {ops : List Operation} {control : Control}
    (own : OwnControl key x ops control) : (empty.run ops).ownBits key x = some control := by
  obtain ⟨before, op, after, rfl, joins, rfl⟩ := own
  have joined : ((empty.run before).perform op).registry.IsPartner key x :=
    run_snoc empty before op ▸ joins.since.start
  rw [run_cut, run_ownBits (run_empty_wellFormed _) joins.since, run_snoc,
    perform_ownBits (run_empty_wellFormed before) joined, if_neg joins.outside]
  cases (controlsOf key x after).getLast? <;> rfl

/-- Since there are no variables at the start, a partner has become one along the run. -/
theorem exists_ownControl {ops : List Operation} (partner : (empty.run ops).IsPartner key x) :
    ∃ control, OwnControl key x ops control := by
  rcases Throughout.or_since (fun (r : Registry) op => (r.perform op).registry) (IsPartner · key x)
    partner with throughout | ⟨before, op, after, rfl, outside, since⟩
  · obtain ⟨i, side, hc⟩ := isPartner_iff.1 throughout.start
    have present := (Row.sideOf_eq_some (callerRow_eq_some hc).2).1
    rw [rows_empty] at present
    exact absurd present (Row.not_present_partner_empty side)
  · exact ⟨_, before, op, after, rfl, ⟨outside, run_snoc empty before op ▸ since⟩, rfl⟩

/-! ## Sides without a partner -/

/-- Whether no control bits are kept for sides that nobody fills in. -/
def AbsentFree (rows : Vector Row rowCapacity) : Prop :=
  ∀ (j : RowIndex) (side : Side), ¬((rows.get j).partner side).Present →
    ((rows.get j).partner side).flags.control = .none

namespace AbsentFree

variable {rows rows' : Vector Row rowCapacity}

theorem set (h : AbsentFree rows) (i : RowIndex) {row : Row}
    (hi : ∀ side, ¬(row.partner side).Present → (row.partner side).flags.control = .none) :
    AbsentFree (put rows i row) := by
  intro j side
  rw [get_put]
  split
  · exact hi side
  · exact h j side

/-- A row whose partners stay where they are with their control bits. -/
theorem of_bare (h : AbsentFree rows) (i : RowIndex) {row : Row} (bare : row.bare = (rows.get i).bare)
    (control : ∀ side, (row.partner side).flags.control = ((rows.get i).partner side).flags.control) :
    AbsentFree (put rows i row) :=
  h.set i fun side absent =>
    (control side).trans (h i side fun present => absent ((Row.present_of_bare bare side).2 present))

theorem step {who : ProcessorId → Prop} (h : AbsentFree rows) (sound : RowsSound rows)
    (s : RowStep who rows rows') : AbsentFree rows' := by
  cases s with
  | mark i marked => exact h.of_bare i (Row.bare_markEvent ..) (Row.control_markEvent _ marked)
  | unmark i id => exact h.of_bare i (Row.bare_clearEvent ..) (Row.control_clearEvent _ id)
  | restrict i restricted control present =>
    refine h.set i fun side absent => ?_
    rw [Row.present_of_bare (Row.bare_withControl ..)] at absent
    rw [Row.control_withControl]
    split
    · rename_i own
      exact absurd (own ▸ present) absent
    · exact h i side absent
  | access i by_side state => exact h.of_bare i rfl (Row.control_withState _ state)
  | accept i name addressee p present =>
    refine h.set i fun side => ?_
    cases side with
    | offering => exact h i .offering
    | accepting => exact fun _ => rfl
  | offer i key name addressee p told =>
    refine h.set i fun side _ => ?_
    cases side <;> rfl
  | leave i left present =>
    refine h.set i fun side => ?_
    obtain ⟨-, rest⟩ | ⟨-, -, rest⟩ := (sound.sound i).leave_cases ((sound.sound i).sideOf_id present)
    · rw [rest]
      cases side <;> exact fun _ => rfl
    · rw [rest]
      cases side with
      | offering => exact h i left.other
      | accepting => exact fun _ => rfl

theorem steps {who : ProcessorId → Prop} (h : AbsentFree rows) (sound : RowsSound rows)
    (s : ReflTransGen (RowStep who) rows rows') : AbsentFree rows' := by
  induction s with
  | refl => exact h
  | tail before s ih => exact ih.step (sound.steps before) s

end AbsentFree

theorem run_absent (ops : List Operation) : AbsentFree (empty.run ops).rows := by
  let P (r : Registry) : Prop := r.WellFormed ∧ AbsentFree r.rows
  have start : P empty := by
    refine ⟨empty_wellFormed, fun j side _ => ?_⟩
    rw [rows_empty]
    cases side <;> rfl
  have all : P (empty.run ops) :=
    run_induction (fun r op hr =>
      ⟨hr.1.perform op, hr.2.steps hr.1.rows (perform_evolves r op).rows⟩) start ops
  exact all.2

/-! ## What a partner sees -/

theorem getControl_of_callerRow (hc : r.callerRow key x = some (i, side)) :
    r.getControl key x = ((r.rows.get i).view side).1 := by
  rw [getControl, hc]

/-- Who asks for control bits is told what it sees from then on. -/
theorem setControl_value (r : Registry) (key : Key) (x : ProcessorId) (control : Control) :
    (r.setControl key x control).value = (r.setControl key x control).registry.getControl key x := by
  have places := callerRow_of_bare (fun j => (setControl_kept (r := r) key x control j).bare) key x
  cases hc : r.callerRow key x with
  | none =>
    rw [getControl, places, hc, setControl, hc]
    rfl
  | some place =>
    obtain ⟨i, side⟩ := place
    rw [getControl_of_callerRow (places.trans hc)]
    simp only [setControl, hc, Outcome.andThen, unchanged]

/-- Control bits follow the partners. Whatever is done to the registry, what a partner of a variable sees
are the bits that it has asked for last since it has become a partner, or none before the first time,
together with those of the other partner from the opposite point of view, if there is another one. It does
not matter which of them is the offering partner, how often they have changed sides, or who was on their
sides before. What two partners see is the same from opposite points of view, and who asks for control bits
is told what it sees then. -/
theorem control_follows_partners (ops : List Operation) (key : Key) :
    let r := empty.run ops
    (∀ x, r.IsPartner key x → ∃! own, OwnControl key x ops own) ∧
      (∀ x own, OwnControl key x ops own → (∀ y, ¬r.Couples key x y) → r.getControl key x = own) ∧
      (∀ x y own other, OwnControl key x ops own → OwnControl key y ops other → r.Couples key x y →
        r.getControl key x = own.union other.mirror) ∧
      (∀ x y, r.Couples key x y → r.getControl key y = (r.getControl key x).mirror ∧
        r.seenState key y = (r.seenState key x).mirror) ∧
      ∀ x control,
        (r.setControl key x control).value = (r.setControl key x control).registry.getControl key x := by
  intro r
  have well : r.WellFormed := run_empty_wellFormed ops
  have keeps_asked {x : ProcessorId} {own : Control} (asked : OwnControl key x ops own) {i : RowIndex}
      {side : Side} (hc : r.callerRow key x = some (i, side)) :
      ((r.rows.get i).partner side).flags.control = own :=
    Option.some.inj ((ownBits_of_callerRow hc).symm.trans asked.ownBits)
  refine ⟨fun x partner => ?_, fun x own asked alone => ?_, fun x y own other asked asked' coupled => ?_,
    fun x y coupled => ?_, setControl_value r key⟩
  · obtain ⟨own, asked⟩ := exists_ownControl partner
    refine ⟨own, asked, fun own' asked' => ?_⟩
    exact Option.some.inj (asked'.ownBits.symm.trans asked.ownBits)
  · have partner : r.IsPartner key x := by
      have bits := asked.ownBits
      rw [Registry.ownBits, Option.map_eq_some_iff] at bits
      obtain ⟨⟨i, side⟩, hc, -⟩ := bits
      exact isPartner_iff.2 ⟨i, side, hc⟩
    obtain ⟨i, side, hc⟩ := isPartner_iff.1 partner
    have absent : ¬((r.rows.get i).partner side.other).Present := fun present =>
      alone _ (couples_of_callerRow hc present)
    rw [getControl_of_callerRow hc, Row.view_control, keeps_asked asked hc, run_absent ops i side.other absent]
    exact Control.union_none own
  · obtain ⟨i, side, hx, hy, -⟩ := coupled.places well
    rw [getControl_of_callerRow hx, Row.view_control, keeps_asked asked hx, keeps_asked asked' hy]
  · obtain ⟨i, side, hx, hy, -⟩ := coupled.places well
    rw [getControl_of_callerRow hx, getControl_of_callerRow hy, seenState_of_callerRow hx,
      seenState_of_callerRow hy]
    exact ⟨Row.view_control_other .., Row.view_other ..⟩

/-- Both partners restrict each other, and the one that has made the offer leaves and comes back: it is the
accepting partner now, sees what the other one has asked for and nothing of what it asked for itself. -/
theorem control_follows_partners_of_return :
    let a := Partner.ofProcess (.single 1001) 10 0
    let b := Partner.ofProcess (.single 1002) 20 0
    let name := Name.ofText "LEVEL"
    let share := [Operation.matchOrMake name .general a, .matchOrMake name a.id b]
    let key := ((empty.run share).rows.get 0).key
    let before := share ++ [.setControl key a.id .all, .setControl key b.id .useByMe, .retract key a.id]
    let ops := before ++ [.matchOrMake name b.id a]
    OwnControl key a.id ops .none ∧ OwnControl key b.id ops .useByMe ∧
      (empty.run ops).Couples key a.id b.id ∧
      (empty.run ops).getControl key a.id = Control.none.union Control.useByMe.mirror := by
  intro a b name share key before ops
  have returned : OwnControl key a.id ops .none :=
    ⟨before, .matchOrMake name b.id a, [], rfl, ⟨by decide +kernel, by decide +kernel⟩, rfl⟩
  have stayed : OwnControl key b.id ops .useByMe :=
    ⟨[.matchOrMake name .general a], .matchOrMake name a.id b, _, rfl,
      ⟨by decide +kernel, by decide +kernel⟩, by decide +kernel⟩
  have coupled : (empty.run ops).Couples key a.id b.id := by decide +kernel
  exact ⟨returned, stayed, coupled,
    (control_follows_partners ops key).2.2.1 _ _ _ _ returned stayed coupled⟩

end Registry

end SharedVariables
