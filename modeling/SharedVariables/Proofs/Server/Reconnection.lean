import SharedVariables.Proofs.Server.LiveServer

/-!
# Sessions side by side

When a session ends, sessions that are bound to other processors keep all they have
(`finish_keeps_others`). Sides and registrations belong to processors, though, and not to
connections: of two sessions that are bound to the same processor, the one that ends takes away what
the other has (`finish_can_take_from_another`). This is what a client meets that connects anew
before the server has noticed that its old connection is dead.
-/

namespace SharedVariables

/-- What a processor still has after a change: its registration and its sides of variables, if it
had them before. Its side of a variable may be the other one. -/
structure Registry.Keeps (r r' : Registry) (id : ProcessorId) : Prop where
  registered : r.isRegistered id = true → r'.isRegistered id = true
  sides : ∀ (i : RowIndex) (side : Side), (r.rows.get i).sideOf id = some side →
    ∃ kept, (r'.rows.get i).sideOf id = some kept ∧ (r'.rows.get i).key = (r.rows.get i).key ∧
      ((r'.rows.get i).partner kept).bare = ((r.rows.get i).partner side).bare

theorem Registry.leave_keeps {r : Registry} (h : r.WellFormed) {id other : ProcessorId}
    (hne : other ≠ id) : r.Keeps (r.leave id).registry other where
  registered := isRegistered_of_evolves hne (leave_evolves r id)
  sides i side hs := by
    rw [leave_row h]
    exact Row.partner_without (h.rows.sound i) hne hs

namespace LiveServer

variable {l : LiveServer} {n m : Nat} {s t : Session}

/-- When a session ends, a session that is bound to another processor keeps all that its processor
has. If both are bound to the same processor, that is not registered and shares nothing afterwards,
and the session that remains is still bound to it. -/
theorem finish_keeps_others (h : l.Reachable) (hnm : n ≠ m) (hs : l.sessions n = some s)
    (ht : l.sessions m = some t) :
    let ended := l.step (.finish n)
    ended.sessions m = some t ∧ ∀ p, t.me = some p →
      (¬s.ActsFor p.id → l.server.registry.Keeps ended.server.registry p.id) ∧
      (s.ActsFor p.id → ended.server.registry.isRegistered p.id = false ∧
        ∀ i : RowIndex, (ended.server.registry.rows.get i).sideOf p.id = none) := by
  intro ended
  have hended : ended = l.update n none (s.finish l.server).server := step_finish hs
  refine ⟨?_, fun p _ => ⟨fun hother => ?_, ?_⟩⟩
  · rw [hended]
    exact (Function.update_of_ne (Ne.symm hnm) ..).trans ht
  · cases hm : s.me with
    | none =>
      rw [hended, Session.finish_of_unbound hm]
      exact ⟨id, fun i side hi => ⟨side, hi, rfl, rfl⟩⟩
    | some me =>
      have hr : ended.server.registry = (l.server.registry.leave me.id).registry := by
        rw [hended]
        exact Session.finish_registry hm
      rw [hr]
      exact Registry.leave_keeps h.sound.registry fun he => hother ⟨me, hm, he.symm⟩
  · rintro ⟨me, hm, hid⟩
    obtain ⟨unregistered, rows⟩ := h.sound.finish_removes hs hm
    rw [← hid]
    exact ⟨unregistered, fun i => (rows i).1⟩

/-- Of two processors that have offered each other a variable one goes, and the other keeps its
offer. -/
theorem finish_keeps_others_of_two :
    let a := ProcessorId.single 1001
    let b := ProcessorId.single 1002
    let l := start.run [.connect 0, .connect 1, .dispatch 0 (.registerProcessor a false "" 10 0),
      .dispatch 1 (.registerProcessor b false "" 20 0),
      .dispatch 0 (.matchOrMake (.ofText "LEVEL") b a),
      .dispatch 1 (.matchOrMake (.ofText "LEVEL") a b)]
    (l.server.registry.rows.get 0).coupling = .coupled ∧
      (l.step (.finish 0)).server.registry.isRegistered b = true ∧
      (((l.step (.finish 0)).server.registry.rows.get 0).sideOf b).isSome := by
  intro a b l
  have hs : l.sessions 0 = some ⟨some (.ofProcess a 10 0)⟩ := by decide +kernel
  have ht : l.sessions 1 = some ⟨some (.ofProcess b 20 0)⟩ := by decide +kernel
  have other : ¬Session.ActsFor ⟨some (.ofProcess a 10 0)⟩ b := by
    rintro ⟨me, hme, hid⟩
    rw [← Option.some.inj hme] at hid
    exact absurd hid (by decide)
  have kept := ((finish_keeps_others ⟨_, rfl⟩ (by decide) hs ht).2 _ rfl).1 other
  obtain ⟨side, hside, -⟩ := kept.sides 0 .accepting (by decide +kernel)
  exact ⟨by decide +kernel, kept.registered (by decide +kernel), Option.isSome_of_eq_some hside⟩

/-- A session that ends can take away what another one has that is bound to the same processor: a client
connects anew, registers as before and makes an offer, and then its old session ends. -/
theorem finish_can_take_from_another :
    ¬∀ l : LiveServer, l.Reachable → ∀ n m s t p, n ≠ m → l.sessions n = some s →
      l.sessions m = some t → t.me = some p →
      l.server.registry.Keeps (l.step (.finish n)).server.registry p.id := by
  intro keeps
  let id := ProcessorId.single 1001
  let l := start.run [.connect 0, .dispatch 0 (.registerProcessor id false "" 10 0), .connect 1,
    .dispatch 1 (.registerProcessor id false "" 20 0),
    .dispatch 1 (.matchOrMake (.ofText "LEVEL") .general id)]
  have hs : l.sessions 0 = some ⟨some (.ofProcess id 10 0)⟩ := by decide +kernel
  have ht : l.sessions 1 = some ⟨some (.ofProcess id 20 0)⟩ := by decide +kernel
  have kept := keeps l ⟨_, rfl⟩ 0 1 _ _ _ (by decide) hs ht rfl
  have lost : (l.step (.finish 0)).server.registry.isRegistered id = false := by decide +kernel
  exact absurd ((kept.registered (by decide +kernel)).symm.trans lost) (by decide)

end LiveServer

end SharedVariables
