import SharedVariables.Proofs.Registry.Lifecycle
import SharedVariables.Proofs.Run

/-!
# Taking turns

Two partners of a variable may restrict each other to take turns in setting it and in using it. What a
partner may do depends on the control bits and on the access state, both as that partner sees them.
While two processors share a variable, the state that one of them sees follows from what the two do to
the variable and from nothing else: `AccessState.seenAfter` reads it off the operations, one by one
(`seenState_perform`, `seenState_run`). Whose turn it is, is then a statement about this machine alone
(`Since.exhausts_setByMe` and its neighbours), and `restricted_partners_take_turns` is what it means for
the registry.
-/

namespace SharedVariables

theorem Control.contains_inter (a b c : Control) :
    (a.inter b).contains c = (a.contains c && b.contains c) := by
  obtain ⟨_, _, _, _⟩ := a
  obtain ⟨_, _, _, _⟩ := c
  rw [Bool.eq_iff_iff]
  simp only [contains, inter, Bool.and_eq_true, beq_iff_eq, Control.mk.injEq]
  grind

namespace AccessState

@[simp] theorem mirror_mirror (s : AccessState) : s.mirror.mirror = s := by cases s <;> rfl

/-- The state, as a partner sees it, after that partner has used or set the variable. -/
def accessed (s : AccessState) (used : Bool) : AccessState :=
  if used then if s = .offeringHasSet then s else .idle else .offeringHasSet

/-- The state of the variable `key`, as its partner `x` sees it, after an operation. The other partner
is `y`, who follows the same rule from the opposite point of view. -/
def seenAfter (key : Key) (x y : ProcessorId) (s : AccessState) : Operation → AccessState
  | .setState k id used =>
    if k = key then
      if id = x then s.accessed used else if id = y then (s.mirror.accessed used).mirror else s
    else s
  | _ => s

end AccessState

namespace Operation

/-- Whether an operation records that the processor `id` has set the variable `key`. -/
def Sets (key : Key) (id : ProcessorId) (op : Operation) : Prop := op = .setState key id false

/-- Whether an operation records that the processor `id` has used or set the variable `key`. -/
def Accesses (key : Key) (id : ProcessorId) (op : Operation) : Prop :=
  ∃ used, op = .setState key id used

end Operation

/-! ## Turns -/

section Turns

open Operation

variable {key : Key} {x y : ProcessorId} {ops : List Operation}

namespace AccessState

variable (s : AccessState) (used : Bool)

theorem seenAfter_own : s.seenAfter key x y (.setState key x used) = s.accessed used := by
  simp only [seenAfter, ↓reduceIte]

theorem seenAfter_other (hne : x ≠ y) :
    s.seenAfter key x y (.setState key y used) = (s.mirror.accessed used).mirror := by
  simp only [seenAfter, ↓reduceIte, hne.symm]

theorem seenAfter_of_neither {op : Operation} (hx : ¬op.Accesses key x) (hy : ¬op.Accesses key y) :
    s.seenAfter key x y op = s := by
  cases op with
  | setState k id used =>
    simp only [seenAfter]
    split
    · rename_i hk
      subst hk
      rw [if_neg fun h => hx ⟨used, by rw [h]⟩, if_neg fun h => hy ⟨used, by rw [h]⟩]
    · rfl
  | _ => rfl

end AccessState

namespace Since

/-- What comes about by an operation of one kind, and is kept by every access that is not of another
kind, holds since then. -/
theorem seenAfter {first later : Operation → Prop} {P : AccessState → Prop}
    (h : Since first later ops)
    (starts : ∀ (s : AccessState) op, first op → P (s.seenAfter key x y op))
    (own : ∀ s used, ¬later (.setState key x used) → P s → P (s.accessed used))
    (other : ∀ s used, ¬later (.setState key y used) → P s → P (s.mirror.accessed used).mirror)
    (s : AccessState) : P (ops.foldl (AccessState.seenAfter key x y) s) := by
  refine h.holds starts (fun s op hop hs => ?_) s
  by_cases hx : op.Accesses key x
  · obtain ⟨used, rfl⟩ := hx
    rw [AccessState.seenAfter_own]
    exact own s used hop hs
  by_cases hy : op.Accesses key y
  · obtain ⟨used, rfl⟩ := hy
    rw [AccessState.seenAfter_other s used fun hxy => hx ⟨used, by rw [hxy]⟩]
    exact other s used hop hs
  · rwa [AccessState.seenAfter_of_neither s hx hy]

/-- Who has set a variable has had a turn to set it, until the other partner has used or set it.
Using it oneself is no such thing. -/
theorem exhausts_setByMe (h : Since (Sets key x) (Accesses key y) ops) (s : AccessState) :
    (ops.foldl (AccessState.seenAfter key x y) s).restriction.contains .setByMe = true := by
  refine h.seenAfter (P := fun s => s.restriction.contains .setByMe = true) ?_ ?_ ?_ s
  · rintro s _ rfl
    rw [AccessState.seenAfter_own]
    rfl
  · intro s used _
    cases s <;> cases used <;> decide
  · intro s used hop
    exact absurd ⟨used, rfl⟩ hop

theorem renews_setByMe (hne : x ≠ y) (h : Since (Accesses key y) (Sets key x) ops)
    (s : AccessState) :
    (ops.foldl (AccessState.seenAfter key x y) s).restriction.contains .setByMe = false := by
  refine h.seenAfter (P := fun s => s.restriction.contains .setByMe = false) ?_ ?_ ?_ s
  · rintro s _ ⟨used, rfl⟩
    rw [AccessState.seenAfter_other s used hne]
    cases s <;> cases used <;> decide
  · intro s used hop
    cases used with
    | false => exact absurd rfl hop
    | true => cases s <;> decide
  · intro s used _
    cases s <;> cases used <;> decide

/-- Who has used or set a variable has had a turn to use it, until the other partner has set it. -/
theorem exhausts_useByMe (h : Since (Accesses key x) (Sets key y) ops) (s : AccessState) :
    (ops.foldl (AccessState.seenAfter key x y) s).restriction.contains .useByMe = true := by
  refine h.seenAfter (P := fun s => s.restriction.contains .useByMe = true) ?_ ?_ ?_ s
  · rintro s _ ⟨used, rfl⟩
    rw [AccessState.seenAfter_own]
    cases s <;> cases used <;> decide
  · intro s used _
    cases s <;> cases used <;> decide
  · intro s used hop
    cases used with
    | false => exact absurd rfl hop
    | true => cases s <;> decide

theorem renews_useByMe (hne : x ≠ y) (h : Since (Sets key y) (Accesses key x) ops)
    (s : AccessState) :
    (ops.foldl (AccessState.seenAfter key x y) s).restriction.contains .useByMe = false := by
  have set : ops.foldl (AccessState.seenAfter key x y) s = .acceptingHasSet := by
    refine h.seenAfter (P := (· = .acceptingHasSet)) ?_ ?_ ?_ s
    · rintro s _ rfl
      exact AccessState.seenAfter_other s false hne
    · intro s used hop
      exact absurd ⟨used, rfl⟩ hop
    · rintro _ used - rfl
      cases used <;> rfl
  rw [set]
  rfl

end Since

end Turns

/-! ## Points of view -/

namespace Row

variable {row row' : Row} {x y : ProcessorId}

/-- Whether two processors are coupled in a row, whichever of them is the offering partner. -/
def Couples (row : Row) (x y : ProcessorId) : Prop :=
  row.coupling = .coupled ∧
    (row.offering.id = x ∧ row.accepting.id = y ∨ row.offering.id = y ∧ row.accepting.id = x)

instance (row : Row) (x y : ProcessorId) : Decidable (row.Couples x y) :=
  inferInstanceAs (Decidable (_ ∧ _))

theorem Couples.sides (h : row.Couples x y) : ∃ side,
    (row.partner side).Present ∧ (row.partner side).id = x ∧
      (row.partner side.other).Present ∧ (row.partner side.other).id = y := by
  obtain ⟨coupled, ⟨hx, hy⟩ | ⟨hy, hx⟩⟩ := h
  · obtain ⟨ho, ha⟩ := coupling_eq_coupled_iff.1 coupled
    exact ⟨.offering, ho, hx, ha, hy⟩
  · obtain ⟨ho, ha⟩ := coupling_eq_coupled_iff.1 coupled
    exact ⟨.accepting, ha, hx, ho, hy⟩

theorem view_other (row : Row) (side : Side) : (row.view side.other).2 = (row.view side).2.mirror := by
  cases side
  · rfl
  · exact (AccessState.mirror_mirror row.state).symm

theorem view_of_stateCode (h : row'.stateCode = row.stateCode) (side : Side) :
    (row'.view side).2 = (row.view side).2 := by
  have hs : row'.state = row.state := congrArg AccessState.ofCode h
  cases side <;> simp only [view, hs]

theorem view_of_accessCode {side : Side} {used : Bool}
    (h : row'.stateCode = row.accessCode side used) :
    (row'.view side).2 = (row.view side).2.accessed used := by
  cases used with
  | true =>
    by_cases own : (row.view side).2 = .offeringHasSet
    · rw [view_of_stateCode (h.trans (if_pos own))]
      exact (if_pos own).symm
    · have idle : row'.state = .idle := state_of_code (h.trans (if_neg own))
      rw [show (row.view side).2.accessed true = .idle from if_neg own]
      cases side
      · exact idle
      · exact congrArg AccessState.mirror idle
  | false =>
    have set : row'.state = Registry.stateSetBy side := state_of_code h
    cases side
    · exact set
    · exact congrArg AccessState.mirror set

end Row

namespace Registry

open Operation

variable {r : Registry} {op : Operation} {key : Key} {x y : ProcessorId} {i : RowIndex} {side : Side}

/-- The access state of the variable `key`, as the processor `id` sees it. -/
def seenState (r : Registry) (key : Key) (id : ProcessorId) : AccessState :=
  match r.callerRow key id with
  | some (i, side) => ((r.rows.get i).view side).2
  | none => .notShared

/-- Whether two processors are coupled by the variable `key`. -/
def Couples (r : Registry) (key : Key) (x y : ProcessorId) : Prop :=
  ∃ i, r.findVar key = some i ∧ (r.rows.get i).Couples x y

instance (r : Registry) (key : Key) (x y : ProcessorId) : Decidable (r.Couples key x y) :=
  inferInstanceAs (Decidable (∃ _, _))

/-- Whether two processors are coupled by the variable `key` before a run and after each operation
of it. -/
def KeepsCoupled (r : Registry) (key : Key) (x y : ProcessorId) (ops : List Operation) : Prop :=
  Throughout (fun r op => (r.perform op).registry) (·.Couples key x y) r ops

instance (r : Registry) (key : Key) (x y : ProcessorId) (ops : List Operation) :
    Decidable (r.KeepsCoupled key x y ops) :=
  inferInstanceAs (Decidable (Throughout _ _ _ _))

/-! ## Where the partners are -/

/-- The places of two coupled processors are the two sides of a row. -/
theorem Couples.places (h : r.WellFormed) (coupled : r.Couples key x y) : ∃ i side,
    r.callerRow key x = some (i, side) ∧ r.callerRow key y = some (i, side.other) ∧
      (r.rows.get i).coupling = .coupled := by
  obtain ⟨i, hi, row⟩ := coupled
  obtain ⟨side, hp, rfl, hp', rfl⟩ := row.sides
  have sound := h.rows.sound i
  refine ⟨i, side, ?_, ?_, row.1⟩
  · simp only [callerRow, hi, Option.bind_eq_bind, Option.bind_some, sound.sideOf_id hp]
    rfl
  · simp only [callerRow, hi, Option.bind_eq_bind, Option.bind_some, sound.sideOf_id hp']
    rfl

theorem Couples.ne (h : r.WellFormed) (coupled : r.Couples key x y) : x ≠ y := by
  rintro rfl
  obtain ⟨i, side, hx, hy, -⟩ := coupled.places h
  rw [hx] at hy
  cases side <;> cases hy

/-- Two processors that are coupled before an operation and afterwards are so in the same row, and
nothing has become of it meanwhile. Had one of them left, the row would have its key still, and one
partner only. -/
theorem kept_of_couples (h : r.WellFormed) (hi : r.findVar key = some i)
    (coupled : (r.rows.get i).coupling = .coupled)
    (after : (r.perform op).registry.Couples key x y) :
    (r.rows.get i).Kept op ((r.perform op).registry.rows.get i) := by
  obtain ⟨used, hkey⟩ := findVar_eq_some hi
  obtain ⟨j, hj, row⟩ := after
  have hkey' := (findVar_eq_some hj).2
  cases hw : op.sweeps? with
  | some which =>
    have same := Row.eq_of_takesOut (perform_takesOut h hw j) row.1
    rw [same] at hkey'
    obtain rfl := h.rows.keys i j used (hkey.trans hkey'.symm)
    rw [same]
    exact .refl ..
  | none =>
    obtain ⟨fate, meets⟩ := (perform_changes h hw).meets i
    have hf := meets.eq_ofCouplings
    rw [coupled] at hf
    cases hc : ((r.perform op).registry.rows.get i).coupling with
    | none =>
      obtain rfl : fate = .kept := by rw [hf, hc]; rfl
      exact meets
    | coupled =>
      obtain rfl : fate = .kept := by rw [hf, hc]; rfl
      exact meets
    | offered =>
      obtain rfl : fate = .left := by rw [hf, hc]; rfl
      have left : (r.rows.get i).Left op _ := meets
      have used' : ¬((r.perform op).registry.rows.get i).Free := by rwa [Row.Free, left.key]
      have found := (h.perform op).findVar_key used'
      rw [left.key, hkey, hj] at found
      cases found
      cases hc.symm.trans row.1

/-- A row that is kept has its partners where they were. -/
theorem callerRow_of_kept (h : r.WellFormed) (hi : r.findVar key = some i)
    (kept : (r.rows.get i).Kept op ((r.perform op).registry.rows.get i)) (id : ProcessorId) :
    (r.perform op).registry.callerRow key id = r.callerRow key id := by
  obtain ⟨used, hkey⟩ := findVar_eq_some hi
  have used' : ¬((r.perform op).registry.rows.get i).Free := by
    rwa [Row.free_of_bare kept.bare]
  have found := (h.perform op).findVar_key used'
  rw [Row.key_of_bare kept.bare, hkey] at found
  simp only [callerRow, hi, found, Option.bind_eq_bind, Option.bind_some,
    Row.sideOf_of_bare kept.bare]

/-! ## What a partner sees -/

theorem seenState_of_callerRow (hc : r.callerRow key x = some (i, side)) :
    r.seenState key x = ((r.rows.get i).view side).2 := by
  rw [seenState, hc]

/-- While two processors are coupled, each operation changes what one of them sees as the two do by
their accesses. Nobody else accesses the variable. -/
theorem seenState_perform (h : r.WellFormed) (before : r.Couples key x y)
    (after : (r.perform op).registry.Couples key x y) :
    (r.perform op).registry.seenState key x = (r.seenState key x).seenAfter key x y op := by
  obtain ⟨i, side, hx, hy, coupled⟩ := before.places h
  have hi := (callerRow_eq_some hx).1
  have kept := kept_of_couples h hi coupled after
  rw [seenState_of_callerRow hx,
    seenState_of_callerRow ((callerRow_of_kept h hi kept x).trans hx)]
  by_cases own : op.Accesses key x
  · obtain ⟨used, rfl⟩ := own
    rw [AccessState.seenAfter_own]
    exact Row.view_of_accessCode ((setState_row hx used i).2.trans (if_pos rfl))
  by_cases other : op.Accesses key y
  · obtain ⟨used, rfl⟩ := other
    rw [AccessState.seenAfter_other _ used (before.ne h)]
    have seen := Row.view_of_accessCode ((setState_row hy used i).2.trans (if_pos rfl))
    rw [Row.view_other, Row.view_other] at seen
    rw [← seen, AccessState.mirror_mirror]
    rfl
  rw [AccessState.seenAfter_of_neither _ own other]
  rcases kept.state with same | ⟨by_side, used, rfl⟩
  · exact Row.view_of_stateCode same side
  · have hkey := (findVar_eq_some hi).2
    have hxid := (Row.sideOf_eq_some (callerRow_eq_some hx).2).2
    have hyid := (Row.sideOf_eq_some (callerRow_eq_some hy).2).2
    by_cases hs : by_side = side
    · exact absurd ⟨used, by rw [hkey, hs, hxid]⟩ own
    · have hs' : by_side = side.other := by cases by_side <;> cases side <;> simp_all [Side.other]
      exact absurd ⟨used, by rw [hkey, hs', hyid]⟩ other

/-- While two processors are coupled, what one of them sees follows from the operations alone. -/
theorem seenState_run (h : r.WellFormed) {ops : List Operation}
    (coupled : r.KeepsCoupled key x y ops) :
    (r.run ops).seenState key x = ops.foldl (AccessState.seenAfter key x y) (r.seenState key x) := by
  induction ops generalizing r with
  | nil => rfl
  | cons op ops ih =>
    obtain ⟨before, coupled⟩ := throughout_cons.1 coupled
    rw [List.foldl_cons, ← seenState_perform h before coupled.start]
    exact ih (h.perform op) coupled

/-! ## What a partner may do -/

/-- A partner is refused an access that is restricted and exhausted. -/
theorem mayAccess_value (hc : r.callerRow key x = some (i, side)) (attempt : Int32) (byMe : Control)
    (failed : Event) :
    (r.mayAccess key x attempt byMe failed).value =
      !((r.getControl key x).contains byMe && (r.seenState key x).restriction.contains byMe) := by
  have hcontrol : r.getControl key x = ((r.rows.get i).view side).1 := by rw [getControl, hc]
  rw [hcontrol, seenState_of_callerRow hc, ← Control.contains_inter]
  simp only [mayAccess, hc]
  split
  · rename_i allowed
    rw [Bool.not_eq_true] at allowed
    rw [allowed]
    rfl
  · rename_i refused
    rw [not_not] at refused
    rw [refused]
    split <;> rfl

/-- Whether an answer tells the other partner `y` of a refusal on the first attempt, and apart from
that changes and tells nothing. -/
def TellsRefusal (r : Registry) (answer : Outcome Bool) (attempt : Int32) (failed : Event)
    (key : Key) (y : ProcessorId) : Prop :=
  answer.map (fun _ => ()) =
    if answer.value = false ∧ attempt = 0 then r.addEvent failed y key else r.unchanged ()

theorem mayAccess_tellsRefusal (hx : r.callerRow key x = some (i, side))
    (hy : r.callerRow key y = some (i, side.other)) (attempt : Int32) (byMe : Control)
    (failed : Event) :
    r.TellsRefusal (r.mayAccess key x attempt byMe failed) attempt failed key y := by
  obtain ⟨hi, hs⟩ := callerRow_eq_some hy
  have told : r.addEvent failed y key = r.fireEvent i side.other failed := by
    simp only [addEvent, hi, Option.bind_some, hs, Option.map_some]
  simp only [TellsRefusal, mayAccess, hx]
  split
  · rfl
  · split
    · rename_i first
      rw [if_pos ⟨rfl, first⟩, told]
      rfl
    · rename_i again
      rw [if_neg fun h => again h.2]
      rfl

/-- Two partners of a variable take turns in setting it and in using it, as far as they are
restricted to. The run `ops` is any run during which the processors `x` and `y` are coupled by the
variable, and `x` asks at its end; whatever `x` asks in the middle of a run it asks at the end of a
shorter one. Of the control bits, only those that `x` sees when it asks matter. -/
theorem restricted_partners_take_turns (h : r.Reachable) {ops : List Operation}
    (coupled : r.KeepsCoupled key x y ops) :
    let r' := r.run ops
    let restricted (byMe : Control) : Prop := (r'.getControl key x).contains byMe = true
    (restricted .setByMe → ∀ attempt,
      (Since (Sets key x) (Accesses key y) ops → (r'.maySet key x attempt).value = false) ∧
        (Since (Accesses key y) (Sets key x) ops → (r'.maySet key x attempt).value = true)) ∧
    (restricted .useByMe → ∀ attempt,
      (Since (Accesses key x) (Sets key y) ops → (r'.mayUse key x attempt).value = false) ∧
        (Since (Sets key y) (Accesses key x) ops → (r'.mayUse key x attempt).value = true)) ∧
    (¬restricted .setByMe → ∀ attempt, (r'.maySet key x attempt).value = true) ∧
    (¬restricted .useByMe → ∀ attempt, (r'.mayUse key x attempt).value = true) ∧
    ∀ attempt,
      r'.TellsRefusal (r'.maySet key x attempt) attempt .setFailed key y ∧
        r'.TellsRefusal (r'.mayUse key x attempt) attempt .useFailed key y := by
  intro r' restricted
  have hne := coupled.start.ne h.wellFormed
  obtain ⟨i, side, hx, hy, -⟩ := coupled.finish.places (h.run ops).wellFormed
  have seen := seenState_run h.wellFormed coupled
  have maySet_value (attempt : Int32) : (r'.maySet key x attempt).value = _ :=
    mayAccess_value hx attempt .setByMe .setFailed
  have mayUse_value (attempt : Int32) : (r'.mayUse key x attempt).value = _ :=
    mayAccess_value hx attempt .useByMe .useFailed
  refine ⟨fun hc attempt => ⟨fun hs => ?_, fun hs => ?_⟩,
    fun hc attempt => ⟨fun hs => ?_, fun hs => ?_⟩, fun hc attempt => ?_, fun hc attempt => ?_,
    fun attempt =>
      ⟨mayAccess_tellsRefusal hx hy attempt _ _, mayAccess_tellsRefusal hx hy attempt _ _⟩⟩
  · rw [maySet_value, hc, seen, hs.exhausts_setByMe]
    rfl
  · rw [maySet_value, hc, seen, hs.renews_setByMe hne]
    rfl
  · rw [mayUse_value, hc, seen, hs.exhausts_useByMe]
    rfl
  · rw [mayUse_value, hc, seen, hs.renews_useByMe hne]
    rfl
  · rw [maySet_value, Bool.eq_false_of_not_eq_true hc]
    rfl
  · rw [mayUse_value, Bool.eq_false_of_not_eq_true hc]
    rfl

/-- The accepting partner may not set the variable a second time before the offering partner has used
it, and using it itself does not help. -/
theorem restricted_partners_take_turns_of_two :
    let a := Partner.ofProcess (.single 1001) 10 0
    let b := Partner.ofProcess (.single 1002) 20 0
    let name := Name.ofText "LEVEL"
    let r := empty.run [.matchOrMake name .general a, .matchOrMake name a.id b]
    let key := (r.rows.get 0).key
    let first := [.setControl key b.id .setByMe, .setState key b.id false, .setState key b.id true]
    let second := first ++ [.setState key a.id true]
    ((r.run first).maySet key b.id 1).value = false ∧
      ((r.run second).maySet key b.id 1).value = true := by
  intro a b name r key first second
  have reachable : r.Reachable := ⟨_, rfl⟩
  have coupled : r.KeepsCoupled key b.id a.id second := by decide +kernel
  have coupled' : r.KeepsCoupled key b.id a.id first := by decide +kernel
  refine ⟨((restricted_partners_take_turns reachable coupled').1 (by decide +kernel) 1).1 ?_,
    ((restricted_partners_take_turns reachable coupled).1 (by decide +kernel) 1).2 ?_⟩
  · refine ⟨[_], _, [_], rfl, rfl, fun op hop => ?_⟩
    rw [List.mem_singleton.1 hop]
    rintro ⟨used, same⟩
    exact absurd (Operation.setState.inj same).2.1 (by decide)
  · exact ⟨[_, _, _], _, [], rfl, ⟨true, rfl⟩, fun _ hop => absurd hop List.not_mem_nil⟩

end Registry

end SharedVariables
