import Mathlib.Logic.Function.Basic
import SharedVariables.Proofs.Registry.Leaving
import SharedVariables.Proofs.Server.Dispatch
import SharedVariables.Server.Service

/-!
# A server and its sessions

`LiveServer` is a server with the sessions that are alive. Clients connect, send signals and go in
any order, one step at a time (`LiveServer.step`), and a connection that is served to its end takes
such steps and ends with the end of its session, whatever the reason (`IsServedBy.runFor`).

All that is held on the server belongs to sessions that are alive (`LiveServer.Sound`,
`step_sound`): no row, registration or value outlives the session it is there for (`no_orphans`).
-/

namespace SharedVariables

/-- A server and its sessions that have not ended, each under the number of its connection. -/
structure LiveServer where
  server : Server
  sessions : Nat → Option Session

/-- What happens on a server. -/
inductive ServerAction where
  | connect (n : Nat)
  /-- A session answers a signal; one that is no request is not answered. -/
  | dispatch (n : Nat) (signal : Signal)
  /-- A session ends, for whatever reason. -/
  | finish (n : Nat)

namespace LiveServer

/-- A server without sessions. -/
def start : LiveServer := ⟨.empty, fun _ => none⟩

/-- The server with a session replaced, if it is given, or without it. -/
def update (l : LiveServer) (n : Nat) (session : Option Session) (server : Server) : LiveServer :=
  ⟨server, Function.update l.sessions n session⟩

/-- The server after an action. -/
def step (l : LiveServer) : ServerAction → LiveServer
  | .connect n =>
    match l.sessions n with
    | none => l.update n (some .unbound) l.server
    | some _ => l
  | .dispatch n signal =>
    match l.sessions n with
    | none => l
    | some s =>
      match s.dispatch l.server signal with
      | .ok d => l.update n (some d.session) d.server
      | .error _ => l
  | .finish n =>
    match l.sessions n with
    | none => l
    | some s => l.update n none (s.finish l.server).server

/-- The server after a list of actions, done first to last. -/
def run (l : LiveServer) (actions : List ServerAction) : LiveServer := actions.foldl step l

/-- Whether a state comes about by actions from the start. -/
def Reachable (l : LiveServer) : Prop := ∃ actions, start.run actions = l

/-- Whether a session that is alive is bound to a processor. -/
def IsBound (l : LiveServer) (id : ProcessorId) : Prop :=
  ∃ n s, l.sessions n = some s ∧ s.ActsFor id

/-- What holds in every state that is reached. -/
structure Sound (l : LiveServer) : Prop where
  registry : l.server.registry.WellFormed
  owned : l.server.registry.BelongsTo l.IsBound
  pruned : l.server.Pruned

variable {l : LiveServer} {n : Nat} {s : Session}

/-! ## Steps -/

theorem step_dispatch (hs : l.sessions n = some s) {signal : Signal} {d : Dispatched}
    (hd : s.dispatch l.server signal = .ok d) :
    l.step (.dispatch n signal) = l.update n (some d.session) d.server := by
  simp only [step, hs, hd]

theorem step_dispatch_error (hs : l.sessions n = some s) {signal : Signal} {e : DispatchError}
    (hd : s.dispatch l.server signal = .error e) : l.step (.dispatch n signal) = l := by
  simp only [step, hs, hd]

theorem step_finish (hs : l.sessions n = some s) :
    l.step (.finish n) = l.update n none (s.finish l.server).server := by
  simp only [step, hs]

/-- Who is bound stays bound when a session is replaced by one that acts for the same processor. -/
theorem IsBound.update {id : ProcessorId} {s' : Session} {server : Server}
    (h : l.IsBound id) (hs : ∀ s, l.sessions n = some s → s.ActsFor id → s'.ActsFor id) :
    (l.update n (some s') server).IsBound id := by
  obtain ⟨m, t, ht, hid⟩ := h
  by_cases hm : m = n
  · subst hm
    exact ⟨m, s', Function.update_self .., hs t ht hid⟩
  · exact ⟨m, t, (Function.update_of_ne hm ..).trans ht, hid⟩

theorem IsBound.update_self {id : ProcessorId} {server : Server} (h : s.ActsFor id) :
    (l.update n (some s) server).IsBound id := ⟨n, s, Function.update_self .., h⟩

/-- A session that ends leaves those bound that it does not act for. -/
theorem IsBound.finish {id : ProcessorId} {server : Server} (h : l.IsBound id)
    (hs : ∀ s, l.sessions n = some s → ¬s.ActsFor id) : (l.update n none server).IsBound id := by
  obtain ⟨m, t, ht, hid⟩ := h
  have hm : m ≠ n := fun he => hs t (he ▸ ht) hid
  exact ⟨m, t, (Function.update_of_ne hm ..).trans ht, hid⟩

/-! ## What every step keeps -/

theorem start_sound : start.Sound where
  registry := Registry.empty_wellFormed
  owned := Registry.empty_belongsTo _
  pruned := ⟨fun _ h => absurd h List.not_mem_nil, fun _ h => absurd h List.not_mem_nil⟩

namespace Sound

theorem connect (h : l.Sound) (hn : l.sessions n = none) :
    (l.update n (some .unbound) l.server).Sound where
  registry := h.registry
  owned := h.owned.mono fun _ hid => hid.update fun s hs => by rw [hn] at hs; cases hs
  pruned := h.pruned

/-- What the processor of a session gets belongs to that session, which is alive. -/
theorem dispatch (h : l.Sound) (hs : l.sessions n = some s) {d : Dispatched}
    (hd : s.Responds l.server d) : (l.update n (some d.session) d.server).Sound where
  registry := h.registry.evolves hd.registry
  owned := by
    have before : l.server.registry.BelongsTo (l.update n (some d.session) d.server).IsBound := by
      refine h.owned.mono fun id hid => hid.update fun t ht hact => hd.bound id ?_
      rw [hs] at ht
      exact Option.some.inj ht ▸ hact
    exact before.evolves (fun _ => .update_self) (fun _ => .update_self) hd.registry
  pruned := hd.pruned

/-- A session takes with it what belongs to its processor; the rest belongs to other sessions. -/
theorem finish (h : l.Sound) (hs : l.sessions n = some s) :
    (l.update n none (s.finish l.server).server).Sound := by
  have own (t : Session) (ht : l.sessions n = some t) : t = s := by
    rw [hs] at ht
    exact (Option.some.inj ht).symm
  cases hm : s.me with
  | none =>
    have alone (id : ProcessorId) (t : Session) (ht : l.sessions n = some t) : ¬t.ActsFor id := by
      rintro ⟨me, hme, -⟩
      rw [own t ht, hm] at hme
      cases hme
    rw [Session.finish_of_unbound hm]
    exact ⟨h.registry, h.owned.mono fun id hid => hid.finish (alone id), h.pruned⟩
  | some me =>
    have hid : l.IsBound me.id := ⟨n, s, hs, me, hm, rfl⟩
    have hr : (s.finish l.server).server.registry = (l.server.registry.leave me.id).registry :=
      Session.finish_registry hm
    refine ⟨?_, ?_, Session.finish_pruned h.pruned⟩
    · rw [update, hr]
      exact h.registry.evolves (Registry.leave_evolves _ me.id)
    · rw [update, hr]
      refine (h.owned.leave h.registry hid).mono fun id hid => hid.1.finish fun t ht => ?_
      rintro ⟨me', hme', rfl⟩
      refine hid.2 ?_
      rw [own t ht, hm] at hme'
      exact congrArg Partner.id (Option.some.inj hme').symm

end Sound

theorem step_sound (h : l.Sound) (action : ServerAction) : (l.step action).Sound := by
  cases action with
  | connect n =>
    cases hn : l.sessions n with
    | none => simpa only [step, hn] using h.connect hn
    | some s => simpa only [step, hn] using h
  | dispatch n signal =>
    cases hn : l.sessions n with
    | none => simpa only [step, hn] using h
    | some s =>
      cases hd : s.dispatch l.server signal with
      | error e => rw [step_dispatch_error hn hd]; exact h
      | ok d => rw [step_dispatch hn hd]; exact h.dispatch hn (Session.dispatch_responds hd)
  | finish n =>
    cases hn : l.sessions n with
    | none => simpa only [step, hn] using h
    | some s => rw [step_finish hn]; exact h.finish hn

theorem run_sound (h : l.Sound) (actions : List ServerAction) : (l.run actions).Sound := by
  induction actions generalizing l with
  | nil => exact h
  | cons action actions ih => exact ih (step_sound h action)

theorem Reachable.sound (h : l.Reachable) : l.Sound := by
  obtain ⟨actions, rfl⟩ := h
  exact run_sound start_sound actions

/-- A server without sessions remembers nothing. -/
theorem Sound.deserted (h : l.Sound) (hn : ∀ n, l.sessions n = none) :
    l.server.registry.usedRows = [] ∧ l.server.registry.usedSlots = [] ∧
      l.server.values = .empty ∧ l.server.exchanged = .empty := by
  have nobody (id : ProcessorId) : ¬l.IsBound id := by
    rintro ⟨n, s, hs, -⟩
    rw [hn] at hs
    cases hs
  have free (i : RowIndex) : (l.server.registry.rows.get i).Free := by
    by_contra hf
    exact nobody _ (h.owned.sides i .offering ((h.registry.rows.sound i).used hf))
  have gone (key : Key) : ¬(l.server.registry.findVar key).isSome := by
    intro hk
    obtain ⟨i, hi⟩ := Option.isSome_iff_exists.1 hk
    exact (Registry.findVar_eq_some hi).1 (free i)
  refine ⟨?_, ?_, ?_, ?_⟩
  · refine List.filter_eq_nil_iff.2 fun row hrow => ?_
    obtain ⟨i, rfl⟩ := mem_toList.1 hrow
    simpa using free i
  · refine List.filter_eq_nil_iff.2 fun slot hslot => ?_
    obtain ⟨i, rfl⟩ := mem_toList.1 hslot
    simpa using fun hu => nobody _ (h.owned.slots i hu)
  · exact congrArg ValueTable.mk
      (List.eq_nil_iff_forall_not_mem.2 fun entry he => gone _ (h.pruned.values entry he))
  · exact congrArg ValueTable.mk
      (List.eq_nil_iff_forall_not_mem.2 fun entry he => gone _ (h.pruned.exchanged entry he))

/-! ## Serving a connection -/

/-- Whether a service is at work on a session of a server. -/
structure IsServedBy (l : LiveServer) (n : Nat) (svc : Service) : Prop where
  session : l.sessions n = some svc.session
  server : l.server = svc.server

variable {svc : Service}

theorem run_append (l : LiveServer) (actions actions' : List ServerAction) :
    l.run (actions ++ actions') = (l.run actions).run actions' := List.foldl_append

theorem IsServedBy.of_eq {svc' : Service} (h : l.IsServedBy n svc)
    (hs : svc'.session = svc.session) (hv : svc'.server = svc.server) : l.IsServedBy n svc' :=
  ⟨hs ▸ h.session, hv ▸ h.server⟩

/-- A reply changes neither the session nor the server, whether it is written or not. -/
theorem IsServedBy.write (h : l.IsServedBy n svc) {reply : Signal} {svc' : Service}
    (hw : svc.write? reply = some svc') : l.IsServedBy n svc' := by
  simp only [Service.write?] at hw
  split at hw
  · cases hw
  split at hw
  · cases hw
    exact h.of_eq rfl rfl
  split at hw
  · cases hw
    exact h.of_eq rfl rfl
  · cases hw

theorem IsServedBy.react (h : l.IsServedBy n svc) (signal : Signal) :
    (l.step (.dispatch n signal)).IsServedBy n (svc.react signal).1 := by
  simp only [Service.react]
  cases hd : svc.session.dispatch svc.server signal with
  | error e =>
    rw [step_dispatch_error h.session (h.server ▸ hd)]
    exact h
  | ok d =>
    rw [step_dispatch h.session (h.server ▸ hd)]
    have after : (l.update n (some d.session) d.server).IsServedBy n (svc.after d) :=
      ⟨Function.update_self .., rfl⟩
    dsimp only
    split
    · exact after
    split
    · rename_i hw
      exact after.write hw
    · exact after

/-- A turn of the loop answers a signal, or it answers none. -/
theorem IsServedBy.step (h : l.IsServedBy n svc) :
    ∃ signals : List Signal, (l.run (signals.map (.dispatch n))).IsServedBy n svc.step.1 := by
  simp only [Service.step]
  generalize readFrameServer svc.buffer svc.inbound = received
  have read : l.IsServedBy n { svc with buffer := received.buffer, inbound := received.source } :=
    h.of_eq rfl rfl
  split
  · rename_i signal _
    exact ⟨[signal], read.react signal⟩
  · exact ⟨[], read⟩
  · exact ⟨[], read⟩

theorem IsServedBy.finish (h : l.IsServedBy n svc) :
    l.step (.finish n) = l.update n none svc.finish.server := by
  rw [step_finish h.session, h.server]
  rfl

/-- Serving a connection answers signals and then ends the session, whatever ends the loop. -/
theorem IsServedBy.runFor (h : l.IsServedBy n svc) (fuel : Nat) :
    ∃ signals : List Signal, (l.run (signals.map (.dispatch n) ++ [.finish n])).server =
      (svc.runFor fuel).server := by
  induction fuel generalizing l svc with
  | zero =>
    refine ⟨[], ?_⟩
    rw [List.map_nil, List.nil_append]
    exact congrArg LiveServer.server h.finish
  | succ fuel ih =>
    obtain ⟨first, hfirst⟩ := h.step
    simp only [Service.runFor]
    generalize svc.step = turn at hfirst ⊢
    obtain ⟨svc', more⟩ := turn
    cases more with
    | false =>
      refine ⟨first, ?_⟩
      rw [run_append]
      exact congrArg LiveServer.server hfirst.finish
    | true =>
      obtain ⟨rest, hrest⟩ := ih hfirst
      refine ⟨first ++ rest, ?_⟩
      rw [List.map_append, List.append_assoc, run_append]
      exact hrest

theorem runFor_session (svc : Service) (fuel : Nat) : (svc.runFor fuel).session = .unbound := by
  induction fuel generalizing svc with
  | zero => exact Session.finish_session
  | succ fuel ih =>
    simp only [Service.runFor]
    split
    · exact ih _
    · exact Session.finish_session

/-- Once a connection has been served there is nothing left to end. -/
theorem run_finish (svc : Service) : svc.run.finish = svc.run := by
  have hs : svc.run.session = .unbound := runFor_session svc _
  generalize svc.run = served at hs ⊢
  obtain ⟨session, server, buffer, inbound, room, replies, notices⟩ := served
  subst hs
  simp only [Service.finish, Session.finish, Session.unbound, Service.after, List.append_nil]

/-! ## No orphans -/

/-- When a session ends, its processor is not registered any more and is no side of any row, and
rows that it was no side of are as they were. -/
theorem Sound.finish_removes (h : l.Sound) (hs : l.sessions n = some s) {me : Partner}
    (hm : s.me = some me) :
    (l.step (.finish n)).server.registry.isRegistered me.id = false ∧
      ∀ i : RowIndex, ((l.step (.finish n)).server.registry.rows.get i).sideOf me.id = none ∧
        ((l.server.registry.rows.get i).sideOf me.id = none →
          (l.step (.finish n)).server.registry.rows.get i = l.server.registry.rows.get i) := by
  have hr : (l.step (.finish n)).server.registry = (l.server.registry.leave me.id).registry := by
    rw [step_finish hs]
    exact Session.finish_registry hm
  rw [hr]
  refine ⟨Registry.leave_not_isRegistered h.registry me.id, fun i => ?_⟩
  refine ⟨Registry.leave_sideOf h.registry me.id i, fun hi => ?_⟩
  rw [Registry.leave_row h.registry, Row.without_of_not_isSide hi]

theorem step_finish_finish (l : LiveServer) (n : Nat) :
    (l.step (.finish n)).step (.finish n) = l.step (.finish n) := by
  have gone : (l.step (.finish n)).sessions n = none := by
    cases hn : l.sessions n with
    | none => simp only [step, hn]
    | some s => rw [step_finish hn]; exact Function.update_self ..
  rw [step]
  simp only [gone]

/-- Nothing outlives the sessions it belongs to. Whatever sessions do, in whatever order, sides and
registrations are those of sessions that are alive; a session that ends takes away all that its
processor has, and only that, and does so once; when no session is left, nothing is. The loop that
serves a connection does nothing but answer signals, and it ends with the end of the session. -/
theorem no_orphans (h : l.Reachable) :
    l.server.registry.BelongsTo l.IsBound ∧
      (∀ n s me, l.sessions n = some s → s.me = some me →
        let ended := l.step (.finish n)
        ended.server.registry.isRegistered me.id = false ∧
          (∀ i : RowIndex, (ended.server.registry.rows.get i).sideOf me.id = none ∧
            ((l.server.registry.rows.get i).sideOf me.id = none →
              ended.server.registry.rows.get i = l.server.registry.rows.get i)) ∧
          ended.step (.finish n) = ended) ∧
      ((∀ n, l.sessions n = none) →
        l.server.registry.usedRows = [] ∧ l.server.registry.usedSlots = [] ∧
          l.server.values = .empty ∧ l.server.exchanged = .empty) ∧
      ∀ n svc, l.IsServedBy n svc →
        (∃ signals : List Signal, (l.run (signals.map (.dispatch n))).IsServedBy n svc.step.1) ∧
          (∃ signals : List Signal,
            (l.run (signals.map (.dispatch n) ++ [.finish n])).server = svc.run.server) ∧
          svc.run.finish = svc.run := by
  refine ⟨h.sound.owned, fun n s me hs hm => ?_, h.sound.deserted, fun n svc hsvc => ?_⟩
  · obtain ⟨unregistered, rows⟩ := h.sound.finish_removes hs hm
    exact ⟨unregistered, rows, step_finish_finish l n⟩
  · exact ⟨hsvc.step, hsvc.runFor _, run_finish svc⟩

/-- A processor registers and offers a variable, and then its connection is gone. -/
theorem no_orphans_of_offer :
    let id := ProcessorId.single 1001
    let l := start.run [.connect 0, .dispatch 0 (.registerProcessor id false "" 10 0),
      .dispatch 0 (.matchOrMake (.ofText "LEVEL") .general id)]
    l.server.registry.isRegistered id = true ∧ l.server.registry.usedRows.length = 1 ∧
      (l.step (.finish 0)).server.registry.isRegistered id = false ∧
      ∀ i : RowIndex, ((l.step (.finish 0)).server.registry.rows.get i).sideOf id = none := by
  intro id l
  have hs : l.sessions 0 = some ⟨some (.ofProcess id 10 0)⟩ := by decide +kernel
  obtain ⟨unregistered, rows, -⟩ := (no_orphans ⟨_, rfl⟩).2.1 0 _ _ hs rfl
  exact ⟨by decide +kernel, by decide +kernel, unregistered, fun i => (rows i).1⟩

end LiveServer

end SharedVariables
