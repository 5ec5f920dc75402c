import SharedVariables.Proofs.Registry.Firing
import SharedVariables.Proofs.Registry.Sharing

/-!
# Operations on different variables

An operation on one variable puts at most one row in the place of that variable and records at most one
event in a slot (`Effect`). Which row and which event that is, what it answers and what it sends follows
from the variable and from the ports that processors have registered (`Settled`, with a case for each
operation in `answer_settled`). An operation on another variable leaves all of that alone (`alike_bring`),
and the changes that the two bring do not get in each other's way, even if they are recorded in the same
slot (`bring_comm`). So it does not matter which of them comes first
(`operations_on_different_variables_commute`).
-/

namespace SharedVariables

theorem Event.union_right_comm (a b c : Event) : (a.union b).union c = (a.union c).union b := by
  simp only [union, UInt32.or_assoc, UInt32.or_comm b.bits]

/-- A row that somebody leaves keeps its key unless it becomes free. -/
theorem Row.leave_key (row : Row) (side : Side) :
    (row.leave side).key = row.key ∨ (row.leave side).Free := by
  have left (rest : Row) (key : rest.key = row.key) :
      (if rest.coupling = .none then empty else rest.withState .notShared).key = row.key ∨
        (if rest.coupling = .none then empty else rest.withState .notShared).Free := by
    split
    · exact .inr rfl
    · exact .inl key
  cases side with
  | offering =>
    simp only [leave]
    refine left _ ?_
    split <;> rfl
  | accepting => exact left _ rfl

/-- Whether a call is an operation on the variable `key`. -/
def StoreCall.ActsOn (key : Key) : StoreCall → Prop
  | setState k _ | setControl k _ | mayUse k _ | maySet k _ | addEvent _ _ k | retract k => k = key
  | _ => False

/-- What an operation on one variable changes: a row is put in a place, and an event is recorded for a
processor. -/
structure Effect where
  change : Option (RowIndex × Row)
  report : Option (ProcessorId × Event)

/-- Whether an effect changes no row but that of the variable `key`, which keeps its key or becomes
free. -/
def Effect.Within (e : Effect) (r : Registry) (key : Key) : Prop :=
  ∀ {i row}, e.change = some (i, row) → r.findVar key = some i ∧ (row.key = key ∨ row.Free)

namespace Registry

/-- The registry with a row put in its place. -/
def rewrite (r : Registry) : Option (RowIndex × Row) → Registry
  | some (i, row) => r.modifyRow i fun _ => row
  | none => r

/-- The registry with an event recorded for a processor. -/
def record (r : Registry) : Option (ProcessorId × Event) → Registry
  | some (id, event) => r.addToSlot id event
  | none => r

/-- The registry after an effect. -/
def bring (r : Registry) (e : Effect) : Registry := (r.rewrite e.change).record e.report

/-- The variable `key` is the same in two registries, and so are the ports that are registered. -/
structure Alike (key : Key) (r s : Registry) : Prop where
  place : s.findVar key = r.findVar key
  row : ∀ {i}, r.findVar key = some i → s.rows.get i = r.rows.get i
  ports : ∀ id, s.udpPort id = r.udpPort id

/-- What `f` does is settled by the variable `key` and the registered ports, and changes no other
variable. -/
def Settled {α : Type} (key : Key) (r : Registry) (f : Registry → Outcome α) : Prop :=
  ∃ value e notices, e.Within r key ∧ ∀ s, Alike key r s → f s = ⟨value, s.bring e, notices⟩

variable {α β : Type} {r s : Registry} {key other : Key} {i : RowIndex} {e e' : Effect}

/-! ## Effects on different variables -/

theorem rewrite_rows (r : Registry) (row : Row) (j : RowIndex) :
    (r.rewrite (some (i, row))).rows.get j = if i = j then row else r.rows.get j :=
  get_put ..

theorem record_rows (r : Registry) (report : Option (ProcessorId × Event)) :
    (r.record report).rows = r.rows := by
  cases report with
  | none => rfl
  | some report => exact addToSlot_rows ..

theorem bring_grows (r : Registry) (e : Effect) : r.Grows (r.bring e) := by
  have rewritten : r.Grows (r.rewrite e.change) := .of_slots (by cases e.change <;> rfl)
  refine rewritten.trans ?_
  rw [bring]
  cases e.report with
  | none => exact .refl _
  | some report => exact addToSlot_grows _ _

/-- A variable does not notice what happens to another one. -/
theorem alike_bring (within : e.Within r key) (differ : key ≠ other) : Alike other r (r.bring e) := by
  have ports := (bring_grows r e).udpPort
  obtain ⟨change, report⟩ := e
  have rows : (r.bring ⟨change, report⟩).rows = (r.rewrite change).rows := record_rows ..
  cases change with
  | none => exact ⟨by simp only [findVar, rows]; rfl, fun _ => by rw [rows]; rfl, ports⟩
  | some change =>
    obtain ⟨i, row⟩ := change
    obtain ⟨found, after⟩ := within rfl
    have before := (findVar_eq_some found).2
    refine ⟨?_, fun {j} hj => ?_, ports⟩
    · by_cases hn : other.IsNone
      · simp only [findVar, hn, ↓reduceIte]
      · refine findVar_congr fun j => ?_
        rw [rows, rewrite_rows]
        split
        · rename_i hij
          subst hij
          have gone : row.key ≠ other := by
            rcases after with same | free
            · rwa [same]
            · exact fun same => hn (same ▸ free)
          exact iff_of_false gone (before.trans_ne differ)
        · rfl
    · have apart : i ≠ j := by
        rintro rfl
        exact differ (before.symm.trans (findVar_eq_some hj).2)
      rw [rows, rewrite_rows, if_neg apart]

theorem addToSlot_slot (r : Registry) (id : ProcessorId) (event : Event) (j : SlotIndex) :
    (r.addToSlot id event).slots.get j =
      if r.findSlot id = some j then (r.slots.get j).addEvent event else r.slots.get j := by
  simp only [addToSlot]
  split
  · rename_i k hk
    simp only [modifySlot, hk, Option.some.injEq]
    rw [get_put]
    split
    · rename_i hkj
      rw [hkj]
    · rfl
  · rename_i hk
    rw [hk, if_neg (Option.some_ne_none j).symm]

/-- It does not matter which of two events is recorded first, even in one slot. -/
theorem addToSlot_comm (r : Registry) (id id' : ProcessorId) (event event' : Event) :
    (r.addToSlot id event).addToSlot id' event' = (r.addToSlot id' event').addToSlot id event := by
  refine eq_of_tables ?_ ?_ (ext_get fun j => ?_)
  · simp only [addToSlot_seq]
  · simp only [addToSlot_rows]
  · simp only [addToSlot_slot, (addToSlot_grows _ _).findSlot]
    split <;> split <;> simp only [Slot.addEvent, Event.union_right_comm]

theorem record_comm (r : Registry) (report report' : Option (ProcessorId × Event)) :
    (r.record report).record report' = (r.record report').record report := by
  cases report with
  | none => rfl
  | some report =>
    cases report' with
    | none => rfl
    | some report' => exact addToSlot_comm ..

/-- Rows and slots are changed independently. -/
theorem rewrite_record (r : Registry) (change : Option (RowIndex × Row))
    (report : Option (ProcessorId × Event)) :
    (r.record report).rewrite change = (r.rewrite change).record report := by
  cases change with
  | none => rfl
  | some change =>
    cases report with
    | none => rfl
    | some report =>
      have same : (r.rewrite (some change)).findSlot report.1 = r.findSlot report.1 := rfl
      simp only [record, addToSlot, same]
      split <;> rfl

theorem rewrite_comm (within : e.Within r key) (within' : e'.Within r other) (differ : key ≠ other) :
    (r.rewrite e.change).rewrite e'.change = (r.rewrite e'.change).rewrite e.change := by
  cases h : e.change with
  | none => rfl
  | some change =>
    cases h' : e'.change with
    | none => rfl
    | some change' =>
      have apart : change.1 ≠ change'.1 := by
        intro same
        have here := (findVar_eq_some (within h).1).2
        have there := (findVar_eq_some (within' h').1).2
        rw [same] at here
        exact differ (here.symm.trans there)
      simp only [rewrite, modifyRow, put_comm _ apart]

/-- Effects on different variables do not get in each other's way. -/
theorem bring_comm (within : e.Within r key) (within' : e'.Within r other) (differ : key ≠ other) :
    (r.bring e).bring e' = (r.bring e').bring e := by
  simp only [bring, rewrite_record, rewrite_comm within within' differ, record_comm _ e.report]

/-! ## What settles an operation -/

namespace Settled

variable {f g : Registry → Outcome α}

theorem congr (h : Settled key r g) (same : ∀ s, Alike key r s → f s = g s) : Settled key r f := by
  obtain ⟨value, e, notices, within, all⟩ := h
  exact ⟨value, e, notices, within, fun s alike => (same s alike).trans (all s alike)⟩

theorem unchanged (value : α) : Settled key r (·.unchanged value) :=
  ⟨value, ⟨none, none⟩, [], nofun, fun _ _ => rfl⟩

theorem map (h : Settled key r f) (g : α → β) : Settled key r fun s => (f s).map g := by
  obtain ⟨value, e, notices, within, all⟩ := h
  exact ⟨g value, e, notices, within, fun s alike => by simp only [all s alike, Outcome.map]⟩

/-- More notifications are sent in the end. -/
theorem append (h : Settled key r f) (more : List Notice) :
    Settled key r fun s => ⟨(f s).value, (f s).registry, (f s).notices ++ more⟩ := by
  obtain ⟨value, e, notices, within, all⟩ := h
  exact ⟨value, e, notices ++ more, within, fun s alike => by simp only [all s alike]⟩

/-- In the end the row is looked at. -/
theorem read (h : Settled key r f) (found : r.findVar key = some i) (g : Row → β) :
    Settled key r fun s => (f s).andThen fun _ s' => s'.unchanged (g (s'.rows.get i)) := by
  obtain ⟨value, e, notices, within, all⟩ := h
  refine ⟨g ((r.bring e).rows.get i), e, notices, within, fun s alike => ?_⟩
  have row : (s.bring e).rows.get i = (r.bring e).rows.get i := by
    simp only [bring, record_rows]
    cases h : e.change with
    | none => exact alike.row found
    | some change =>
      obtain rfl : change.1 = i := Option.some.inj ((within h).1.symm.trans found)
      rw [rewrite_rows, rewrite_rows, if_pos rfl, if_pos rfl]
  simp only [all s alike, Outcome.andThen, Registry.unchanged, row, List.append_nil]

section Row

variable (found : r.findVar key = some i) {f : Row → Row}
  (keeps : (f (r.rows.get i)).key = key ∨ (f (r.rows.get i)).Free)
include found keeps

theorem modify : Settled key r fun s => (s.modifyRow i f).unchanged () := by
  refine ⟨(), ⟨some (i, f (r.rows.get i)), none⟩, [], ?_, fun s alike => ?_⟩
  · rintro j row ⟨⟩
    exact ⟨found, keeps⟩
  · simp only [Registry.modifyRow, alike.row found]
    rfl

/-- A row is changed, and one of its sides is told. -/
theorem fire (side : Side) (event : Event) :
    Settled key r fun s => (s.modifyRow i f).fireEvent i side event := by
  set row := f (r.rows.get i) with hrow
  have rewritten {s : Registry} (alike : Alike key r s) : (s.modifyRow i f).rows.get i = row := by
    rw [modifyRow_self, alike.row found]
  by_cases present : (row.partner side).Present
  · refine ⟨(), ⟨some (i, row.markEvent side), some ((row.partner side).id, event)⟩,
      notify (r.noticePort (row.partner side)) (.newEvent event) row.key, ?_, fun s alike => ?_⟩
    · rintro j row ⟨⟩
      rw [Row.key_of_bare (Row.bare_markEvent ..), Row.free_of_bare (Row.bare_markEvent ..)]
      exact ⟨found, keeps⟩
    · have port : (s.modifyRow i f).noticePort (row.partner side) =
          r.noticePort (row.partner side) := by
        simp only [noticePort, ← alike.ports]
        rfl
      have marked : (s.modifyRow i f).modifyRow i (·.markEvent side) =
          s.modifyRow i fun _ => row.markEvent side := by
        simp only [Registry.modifyRow, put_put]
        rw [get_put, if_pos rfl, alike.row found]
      simp only [fireEvent, rewritten alike, present, ↓reduceIte, port, marked]
      rfl
  · refine (modify found keeps).congr fun s alike => ?_
    simp only [fireEvent, rewritten alike, present, ↓reduceIte]

end Row

/-- One side of a row is told, and the row is not changed otherwise. -/
theorem tell (found : r.findVar key = some i) (side : Side) (event : Event) :
    Settled key r fun s => s.fireEvent i side event := by
  refine (fire (f := fun row => row) found (.inl (findVar_eq_some found).2) side event).congr
    fun s _ => ?_
  simp only [modifyRow, put_get]

end Settled

/-! ## The operations -/

/-- Where a caller is. -/
theorem Alike.callerRow (alike : Alike key r s) (id : ProcessorId) :
    s.callerRow key id = r.callerRow key id := by
  simp only [Registry.callerRow, alike.place]
  cases h : r.findVar key with
  | none => rfl
  | some i => simp only [Option.bind_eq_bind, Option.bind_some, alike.row h]

theorem setState_settled (key : Key) (id : ProcessorId) (used : Bool) :
    Settled key r (·.setState key id used) := by
  cases hc : r.callerRow key id with
  | none => exact (Settled.unchanged ()).congr fun s alike => by simp only [setState, alike.callerRow, hc]
  | some place =>
    obtain ⟨i, side⟩ := place
    have found := (callerRow_eq_some hc).1
    have kept (state : AccessState) : ((r.rows.get i).withState state).key = key :=
      (findVar_eq_some found).2
    have accessed (state : AccessState) (told : Prop) [Decidable told] (event : Event) :
        Settled key r fun s =>
          if told then (s.modifyRow i (·.withState state)).fireEvent i side.other event
          else (s.modifyRow i (·.withState state)).unchanged () := by
      split
      · exact .fire found (.inl (kept state)) side.other event
      · exact .modify found (.inl (kept state))
    cases used with
    | true =>
      by_cases own : ((r.rows.get i).view side).2 = .offeringHasSet
      · refine (Settled.unchanged ()).congr fun s alike => ?_
        simp only [setState, alike.callerRow, hc, alike.row found, own, ↓reduceIte]
      · refine (accessed .idle (((r.rows.get i).view side).1.contains .useByMe) .useSuccess).congr
          fun s alike => ?_
        simp only [setState, alike.callerRow, hc, alike.row found, own, ↓reduceIte]
    | false =>
      refine (accessed (stateSetBy side) (((r.rows.get i).view side).1.contains .setByMe)
        .setSuccess).congr fun s alike => ?_
      simp only [setState, alike.callerRow, hc, alike.row found, Bool.false_eq_true, ↓reduceIte]

theorem mayAccess_settled (key : Key) (id : ProcessorId) (attempt : Int32) (byMe : Control)
    (failed : Event) : Settled key r (·.mayAccess key id attempt byMe failed) := by
  cases hc : r.callerRow key id with
  | none =>
    exact (Settled.unchanged false).congr fun s alike => by simp only [mayAccess, alike.callerRow, hc]
  | some place =>
    obtain ⟨i, side⟩ := place
    have found := (callerRow_eq_some hc).1
    have looked (s : Registry) (alike : Alike key r s) : s.mayAccess key id attempt byMe failed =
        if ¬(((r.rows.get i).view side).1.inter ((r.rows.get i).view side).2.restriction).contains byMe
        then s.unchanged true
        else if attempt = 0 then (s.fireEvent i side.other failed).map fun _ => false
        else s.unchanged false := by
      simp only [mayAccess, alike.callerRow, hc, alike.row found]
    refine Settled.congr ?_ looked
    split
    · exact .unchanged true
    split
    · exact (Settled.tell found side.other failed).map fun _ => false
    · exact .unchanged false

theorem setControl_settled (key : Key) (id : ProcessorId) (control : Control) :
    Settled key r (·.setControl key id control) := by
  cases hc : r.callerRow key id with
  | none =>
    exact (Settled.unchanged .none).congr fun s alike => by simp only [setControl, alike.callerRow, hc]
  | some place =>
    obtain ⟨i, side⟩ := place
    have found := (callerRow_eq_some hc).1
    have kept : ((r.rows.get i).withControl side control).key = key :=
      (Row.key_of_bare (Row.bare_withControl ..)).trans (findVar_eq_some found).2
    have told : Settled key r fun s =>
        if ((r.rows.get i).withControl side control).coupling = .coupled then
          (s.modifyRow i (·.withControl side control)).fireEvent i side.other .accessControlChanged
        else (s.modifyRow i (·.withControl side control)).unchanged () := by
      split
      · exact .fire found (.inl kept) side.other _
      · exact .modify found (.inl kept)
    refine (told.read found fun row => (row.view side).1).congr fun s alike => ?_
    simp only [setControl, alike.callerRow, hc, modifyRow_self, alike.row found]

theorem addEvent_settled (event : Event) (id : ProcessorId) (key : Key) :
    Settled key r (·.addEvent event id key) := by
  cases hc : r.callerRow key id with
  | none =>
    refine ⟨(), ⟨none, some (id, event)⟩, notify (r.udpPort id) (.newEvent event) key, nofun,
      fun s alike => ?_⟩
    simp only [addEvent_of_stranger ((alike.callerRow id).trans hc), alike.ports]
    rfl
  | some place =>
    obtain ⟨i, side⟩ := place
    refine (Settled.tell (callerRow_eq_some hc).1 side event).congr fun s alike => ?_
    exact addEvent_of_callerRow ((alike.callerRow id).trans hc) event

theorem retractSide_settled (found : r.findVar key = some i) (side : Side) :
    Settled key r (·.retractSide i side) := by
  have left : ((r.rows.get i).leave side).key = key ∨ ((r.rows.get i).leave side).Free :=
    (Row.leave_key _ side).imp_left fun same => same.trans (findVar_eq_some found).2
  have told : Settled key r fun s =>
      if ((r.rows.get i).leave side).Free then (s.modifyRow i (·.leave side)).unchanged ()
      else (s.modifyRow i (·.leave side)).fireEvent i .offering .offerRetracted := by
    split
    · exact .modify found left
    · exact .fire found left .offering .offerRetracted
  have port {s : Registry} (alike : Alike key r s) (p : Partner) : s.retractPort p = r.retractPort p := by
    simp only [retractPort, alike.ports]
  refine (told.append (notify (r.retractPort (r.rows.get i).offering) .retractOffer (r.rows.get i).key ++
    notify (r.retractPort (r.rows.get i).accepting) .retractOffer (r.rows.get i).key)).congr
    fun s alike => ?_
  simp only [retractSide, modifyRow_self, alike.row found, port alike]

theorem retract_settled (key : Key) (id : ProcessorId) : Settled key r (·.retract key id) := by
  cases hi : r.findVar key with
  | none =>
    exact (Settled.unchanged .none).congr fun s alike => by simp only [retract, alike.place, hi]
  | some i =>
    cases hs : (r.rows.get i).sideOf id with
    | none =>
      refine (Settled.unchanged (r.rows.get i).coupling).congr fun s alike => ?_
      simp only [retract, alike.place, hi, alike.row hi, hs]
    | some side =>
      refine ((retractSide_settled hi side).map fun _ => (r.rows.get i).coupling).congr
        fun s alike => ?_
      simp only [retract, alike.place, hi, alike.row hi, hs]

/-- Every operation on a variable is settled by it. -/
theorem answer_settled (me : Partner) {call : StoreCall} (acts : call.ActsOn key) :
    Settled key r (·.answer me call) := by
  cases call with
  | setState k used => cases acts; exact setState_settled key me.id used
  | setControl k control => cases acts; exact setControl_settled key me.id control
  | mayUse k attempt => cases acts; exact mayAccess_settled key me.id attempt _ _
  | maySet k attempt => cases acts; exact mayAccess_settled key me.id attempt _ _
  | addEvent event addressee k => cases acts; exact addEvent_settled event addressee key
  | retract k => cases acts; exact retract_settled key me.id
  | _ => exact acts.elim

/-- Operations on different variables commute. Whatever is in the registry, and whoever calls, it does not
matter in which order two operations on different variables are done: each gives the same answer and sends
the same notifications, and the registry is the same in the end. This holds too if both are for the same
partners, whose events they record in the same slots, and if one of them frees its row or changes the roles
in it. -/
theorem operations_on_different_variables_commute (r : Registry) {key other : Key}
    (differ : key ≠ other) (me you : Partner) {call call' : StoreCall} (acts : call.ActsOn key)
    (acts' : call'.ActsOn other) :
    let mine := r.answer me call
    let yours := r.answer you call'
    let mineLater := yours.registry.answer me call
    let yoursLater := mine.registry.answer you call'
    mineLater.value = mine.value ∧ yoursLater.value = yours.value ∧
      yoursLater.registry = mineLater.registry ∧
      (mine.notices ++ yoursLater.notices).Perm (yours.notices ++ mineLater.notices) := by
  intro mine yours mineLater yoursLater
  obtain ⟨value, e, notices, within, settled⟩ := answer_settled (r := r) me acts
  obtain ⟨value', e', notices', within', settled'⟩ := answer_settled (r := r) you acts'
  have same (k : Key) : Alike k r r := ⟨rfl, fun _ => rfl, fun _ => rfl⟩
  have first : mine = ⟨value, r.bring e, notices⟩ := settled r (same key)
  have first' : yours = ⟨value', r.bring e', notices'⟩ := settled' r (same other)
  have later : mineLater = ⟨value, (r.bring e').bring e, notices⟩ := by
    simp only [mineLater, first']
    exact settled _ (alike_bring within' differ.symm)
  have later' : yoursLater = ⟨value', (r.bring e).bring e', notices'⟩ := by
    simp only [yoursLater, first]
    exact settled' _ (alike_bring within differ)
  rw [first, first', later, later']
  exact ⟨rfl, rfl, bring_comm within within' differ, List.perm_append_comm⟩

/-- A processor shares a variable with each of two others. One of these retracts its variable, and the other
one sets its own: in either order both events are recorded in the same slot. -/
theorem operations_on_different_variables_commute_of_common_partner :
    let a := Partner.ofProcess (.single 1001) 10 5001
    let b := Partner.ofProcess (.single 1002) 20 5002
    let c := Partner.ofProcess (.single 1003) 30 5003
    let level := Name.ofText "LEVEL"
    let rate := Name.ofText "RATE"
    let share := [Operation.registerProcessor b.id b.pid b.port, .matchOrMake level .general a,
      .matchOrMake level a.id b, .matchOrMake rate .general c, .matchOrMake rate c.id b]
    let key := ((empty.run share).rows.get 0).key
    let other := ((empty.run share).rows.get 1).key
    let r := empty.run (share ++ [.clearAllEvents b.id, .setControl other c.id .setByMe])
    let retracted := r.answer a (.retract key)
    let set := r.answer c (.setState other false)
    let setLater := retracted.registry.answer c (.setState other false)
    let retractedLater := set.registry.answer a (.retract key)
    key ≠ other ∧ setLater.registry.pendingEvents b.id =
        (Event.accessControlChanged.union .offerRetracted).union .setSuccess ∧
      retractedLater.value = .coupled ∧ setLater.registry = retractedLater.registry ∧
      (retracted.notices ++ setLater.notices).Perm (set.notices ++ retractedLater.notices) := by
  intro a b c level rate share key other r retracted set setLater retractedLater
  have differ : key ≠ other := by decide +kernel
  have coupled : retracted.value = .coupled := by decide +kernel
  obtain ⟨value, -, registry, notices⟩ := operations_on_different_variables_commute r differ a c
    (show StoreCall.ActsOn key (.retract key) from rfl)
    (show StoreCall.ActsOn other (.setState other false) from rfl)
  exact ⟨differ, by decide +kernel, value.trans coupled, registry, notices⟩

end Registry

end SharedVariables
