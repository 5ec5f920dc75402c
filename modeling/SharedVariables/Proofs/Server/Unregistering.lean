import SharedVariables.Client.Store
import SharedVariables.Local.Handle
import SharedVariables.Proofs.Registry.Telling
import SharedVariables.Proofs.Server.LiveServer

/-!
# Unregistering

The call `unregister` is meant to retract all that the caller shares and to remove its registration
(`Registry.Retires`). Through a handle it does: the caller is no side of any row, and every partner that
it had keeps its side and is told. Behind a server only the registration goes, when the session answers
the signal that the call is sent as: the rows stay, and nobody is told. So there the call does what it is
meant to exactly when the caller shares nothing (`unregister_local_remote`). What the caller shares
otherwise stays until its session ends (`unregister_keeps_sides`).
-/

namespace SharedVariables

/-- What is meant to become of a registry when the processor `id` unregisters: it has no registration
and no side any more, and a partner that it had keeps its side, offers now to `id`, and is told. -/
structure Registry.Retires (r : Registry) (id : ProcessorId) (left : Outcome Unit) : Prop where
  unregistered : left.registry.isRegistered id = false
  gone : ∀ i : RowIndex, (left.registry.rows.get i).sideOf id = none
  kept : ∀ (i : RowIndex) side, (r.rows.get i).sideOf id = some side →
    (r.rows.get i).coupling = .coupled →
    left.registry.rows.get i =
      { r.rows.get i with
        offering := ((r.rows.get i).partner side.other).withEvent true
        accepting := .target id
        stateCode := AccessState.notShared.code }
  told : ∀ (i : RowIndex) side, (r.rows.get i).sideOf id = some side →
    (r.rows.get i).coupling = .coupled →
    r.Told ((r.rows.get i).partner side.other) (r.rows.get i).key left

theorem Registry.leave_retires {r : Registry} (h : r.WellFormed) (id : ProcessorId) :
    r.Retires id (r.leave id) where
  unregistered := leave_not_isRegistered h id
  gone := leave_sideOf h id
  kept i side hs hc := by
    obtain ⟨present, hid⟩ := Row.sideOf_eq_some hs
    have used := (h.rows.sound i).not_free_of_present present
    rw [leave_row h, Row.without_of_isSide hs, Row.retracted_of_coupled hc used, hid]
  told _ _ hs hc := leave_told h hs hc

/-- Removing a registration alone is all that is meant exactly when nothing is shared. -/
theorem Registry.unregisterProcessor_retires_iff {r : Registry} (h : r.WellFormed)
    (id : ProcessorId) (notices : List Notice) :
    r.Retires id ⟨(), (r.unregisterProcessor id).registry, notices⟩ ↔
      ∀ i : RowIndex, (r.rows.get i).sideOf id = none := by
  constructor
  · intro retires i
    have gone := retires.gone i
    rwa [unregisterProcessor_rows] at gone
  · intro shares
    refine ⟨unregisterProcessor_not_isRegistered h id, fun i => ?_, fun i side hs => ?_,
      fun i side hs => ?_⟩
    · rw [unregisterProcessor_rows]
      exact shares i
    · rw [shares i] at hs
      cases hs
    · rw [shares i] at hs
      cases hs

namespace StoreCall

/-- What becomes of a processor, its rows and its partners when it unregisters. Through a handle that is
open all is as it is meant to be. Through a session that is bound to the processor the registration goes,
every row and every other registration stays as it is, and nobody is told; that is as it is meant to be
exactly when the processor is no side of any row. -/
theorem unregister_local_remote {h : Handle} {r : Registry} (hr : r.Reachable)
    (isOpen : h.isOpen = true) {l : LiveServer} {n : Nat} {me : Partner} (hl : l.Reachable)
    (hs : l.sessions n = some ⟨some me⟩) (progname : String) :
    r.Retires h.me.id (h.call r .unregister) ∧
      ∃ d, Session.dispatch ⟨some me⟩ l.server (StoreCall.unregister.signal me progname) = .ok d ∧
        (l.step (.dispatch n (StoreCall.unregister.signal me progname))).server = d.server ∧
        d.server.registry.isRegistered me.id = false ∧
        d.server.registry.rows = l.server.registry.rows ∧
        (∀ j : SlotIndex, ¬(l.server.registry.slots.get j).Holds me.id →
          d.server.registry.slots.get j = l.server.registry.slots.get j) ∧
        d.notices = [] ∧
        (l.server.registry.Retires me.id ⟨(), d.server.registry, d.notices⟩ ↔
          ∀ i : RowIndex, (l.server.registry.rows.get i).sideOf me.id = none) := by
  constructor
  · have left : h.call r .unregister = r.leave h.me.id := by
      simp only [Handle.call, Handle.withRegistry, isOpen, ↓reduceIte, Registry.answer]
    rw [left]
    exact Registry.leave_retires hr.wellFormed h.me.id
  · have hd : Session.dispatch ⟨some me⟩ l.server (StoreCall.unregister.signal me progname) =
        .ok (Session.operate ⟨some me⟩ l.server (l.server.registry.unregisterProcessor me.id)
          fun _ => none) := congrArg Except.ok (if_pos (by simp))
    have sound := hl.sound.registry
    refine ⟨_, hd, by rw [LiveServer.step_dispatch hs hd]; rfl,
      Registry.unregisterProcessor_not_isRegistered sound me.id,
      Registry.unregisterProcessor_rows me.id,
      fun j hj => Registry.unregisterProcessor_slot me.id j hj, ?_,
      Registry.unregisterProcessor_retires_iff sound me.id _⟩
    simp only [Session.operate, Registry.unregisterProcessor]
    split <;> rfl

/-- Two processors share a variable, and one of them unregisters: through a handle its side goes, and
through a session it stays. -/
theorem unregister_local_remote_of_two :
    let a := ProcessorId.single 1001
    let b := ProcessorId.single 1002
    let r := Registry.empty.run [.registerProcessor a 10 5001, .registerProcessor b 20 5002,
      .matchOrMake (.ofText "LEVEL") b (.ofProcess a 10 5001),
      .matchOrMake (.ofText "LEVEL") a (.ofProcess b 20 5002)]
    let l := LiveServer.start.run [.connect 0, .dispatch 0 (.registerProcessor a false "" 10 5001),
      .connect 1, .dispatch 1 (.registerProcessor b false "" 20 5002),
      .dispatch 0 (.matchOrMake (.ofText "LEVEL") b a),
      .dispatch 1 (.matchOrMake (.ofText "LEVEL") a b)]
    let left := (Handle.attached a 10 5001).call r .unregister
    let l' := l.step (.dispatch 0 (.unregisterProcessor a))
    l.server.registry = r ∧ (r.rows.get 0).coupling = .coupled ∧
      (left.registry.rows.get 0).sideOf a = none ∧
      ⟨5002, .retractOffer, (r.rows.get 0).key⟩ ∈ left.notices ∧
      l'.server.registry.isRegistered a = false ∧
      (l'.server.registry.rows.get 0).sideOf a = some .offering := by
  intro a b r l left l'
  have same : l.server.registry = r := by decide +kernel
  have coupled : (r.rows.get 0).coupling = .coupled := by decide +kernel
  have hs : l.sessions 0 = some ⟨some (.ofProcess a 10 5001)⟩ := by decide +kernel
  obtain ⟨retires, d, -, hd, unregistered, kept, -⟩ :=
    unregister_local_remote (h := .attached a 10 5001) (r := r) ⟨_, rfl⟩ rfl (l := l) ⟨_, rfl⟩ hs ""
  have port : ((r.rows.get 0).partner Side.offering.other).port = 5002 := by decide +kernel
  have notified := (retires.told 0 .offering (by decide +kernel) coupled).notified
    (by rw [port]; decide)
  rw [port] at notified
  refine ⟨same, coupled, retires.gone 0, notified, ?_, ?_⟩
  · exact (congrArg (fun server => server.registry.isRegistered a) hd).trans unregistered
  · have hrow : l'.server.registry.rows.get 0 = r.rows.get 0 := by
      rw [← same]
      exact (congrArg (fun server => server.registry.rows.get 0) hd).trans
        (congrArg (fun rows => rows.get 0) kept)
    rw [hrow]
    decide +kernel

/-- A processor that unregisters behind a server can stay a side of a row. -/
theorem unregister_keeps_sides :
    ¬∀ (l : LiveServer) (n : Nat) (me : Partner) (progname : String), l.Reachable →
      l.sessions n = some ⟨some me⟩ → l.server.registry.isRegistered me.id = true →
      ∀ i : RowIndex, ((l.step (.dispatch n
        (StoreCall.unregister.signal me progname))).server.registry.rows.get i).sideOf me.id =
          none := by
  intro retracts
  let id := ProcessorId.single 1001
  let l := LiveServer.start.run [.connect 0, .dispatch 0 (.registerProcessor id false "" 10 0),
    .dispatch 0 (.matchOrMake (.ofText "LEVEL") .general id)]
  have hs : l.sessions 0 = some ⟨some (.ofProcess id 10 0)⟩ := by decide +kernel
  have gone := retracts l 0 _ "" ⟨_, rfl⟩ hs (by decide +kernel) 0
  have stays : ((l.step (.dispatch 0 (.unregisterProcessor id))).server.registry.rows.get
      0).sideOf id = some .offering := by decide +kernel
  exact absurd (gone.symm.trans stays) (by decide)

end StoreCall

end SharedVariables
