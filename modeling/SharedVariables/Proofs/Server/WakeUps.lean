import SharedVariables.Proofs.Registry.Addressing
import SharedVariables.Proofs.Server.Tenure

/-!
# Where wake-ups go

Whom a signal wakes up depends on the signal and on who shares what (`Session.Wakes`), and every wake-up
goes to the port that the recipient's side of the row carries or, if it carries none, to the port that the
recipient has registered (`dispatch_addresses`, `finish_addresses`). What a side carries is the port that its
session had registered when it came to share the variable (`LiveServer.Tenure`). A processor that registers
again changes its registration and its session, and no row (`register_refreshes`), so the two can differ
then: `wake_ups_go_to_the_port_of_the_side` says what is sent where in all cases, and that it is the
registered port if the processor has never registered another one.
-/

namespace SharedVariables

/-- The variable that a signal accesses or restricts, and the event that this may be for the other partner
of the variable. -/
def Signal.accessEvent? : Signal → Option (Key × Event)
  | .setState key used _ => some (key, if used then .useSuccess else .setSuccess)
  | .mayUse key _ => some (key, .useFailed)
  | .maySet key _ => some (key, .setFailed)
  | .setControl key _ => some (key, .accessControlChanged)
  | _ => none

namespace Registry

variable {r : Registry} {id : ProcessorId} {pid : UInt32} {port : UInt16}

/-- A registration that is accepted is that of the process and the port that it names. -/
theorem registerProcessor_registers (h : r.WellFormed)
    (accepted : (r.registerProcessor id pid port).value = true) :
    ∃ slot, (r.registerProcessor id pid port).registry.getSlot id = some slot ∧
      slot.partner.pid = pid ∧ slot.partner.port = port := by
  have after := (h.perform (.registerProcessor id pid port)).slots
  have found {j : SlotIndex} (hj : ((r.registerProcessor id pid port).registry.slots.get j).Holds id) :
      (r.registerProcessor id pid port).registry.getSlot id =
        some ((r.registerProcessor id pid port).registry.slots.get j) :=
    congrArg (Option.map _) (findSlot_of_holds after hj)
  by_cases present : (Partner.ofProcess id pid port).Present
  · cases hi : r.findSlot id with
    | some i =>
      have slot : (r.registerProcessor id pid port).registry.slots.get i =
          { r.slots.get i with partner.pid := pid, partner.port := port } := by
        simp only [registerProcessor, present, hi, ↓reduceIte, modifySlot, get_put]
      obtain ⟨used, hid⟩ := findSlot_eq_some hi
      refine ⟨_, found (j := i) ?_, ?_, ?_⟩ <;> rw [slot]
      exact ⟨⟨present.1, used.2⟩, hid⟩
    | none =>
      cases hj : first? r.slots fun slot => !decide slot.Used with
      | some j =>
        have slot : (r.registerProcessor id pid port).registry.slots.get j =
            ⟨.ofProcess id pid port, .none⟩ := by
          simp only [registerProcessor, present, hi, hj, ↓reduceIte, modifySlot, get_put]
        refine ⟨_, found (j := j) ?_, ?_, ?_⟩ <;> rw [slot]
        · exact ⟨present, rfl⟩
        · rfl
        · rfl
      | none =>
        simp only [registerProcessor, present, hi, hj, ↓reduceIte, unchanged] at accepted
        cases accepted
  · simp only [registerProcessor, present, ↓reduceIte, unchanged] at accepted
    cases accepted

end Registry

namespace Session

variable {s : Session} {server : Server} {signal : Signal} {d : Dispatched}

/-- Whom a signal wakes up, and why. -/
inductive Wakes (s : Session) (r : Registry) (signal : Signal) (w : WakeUp) : Prop
  /-- The other partner, by an access or a restriction. -/
  | access (me : Partner) (key : Key) (event : Event) (bound : s.me = some me)
      (sent : signal.accessEvent? = some (key, event)) (peer : r.ToPeer key me.id (.newEvent event) w)
  /-- The other partner, by a note that is passed on. -/
  | forwarded (me : Partner) (key : Key) (bound : s.me = some me) (sent : signal = .retractOffer key)
      (peer : r.ToPeer key me.id .retractOffer w)
  | retracted (me : Partner) (key : Key) (i : RowIndex) (bound : s.me = some me)
      (sent : signal = .retractVar key) (found : r.findVar key = some i)
      (told : r.TellsOfRetract i me.id w)
  /-- The partner whose offer is accepted. -/
  | matched (me : Partner) (name : Name) (addressee : ProcessorId) (bound : s.me = some me)
      (sent : signal = .matchOrMake name addressee me.id) (offerer : r.ToOfferer name addressee me.id w)
  /-- The processor that an event is added for, which need not share the variable. -/
  | event (id : ProcessorId) (key : Key) (event : Event) (sent : signal = .addEvent key id event)
      (meant : r.ForEvent event id key w)

/-- Whom the end of a session wakes up: the partners of its processor, in every row. -/
def WakesLeaving (s : Session) (r : Registry) (w : WakeUp) : Prop :=
  ∃ me i, s.me = some me ∧ r.TellsOfRetract i me.id w

/-! ## Whom a signal wakes up -/

theorem operateBound_addresses {α : Type} {act : Partner → Outcome α} {refused : α}
    {reply : α → Option Signal} {P : WakeUp → Prop}
    (h : ∀ me, s.me = some me → server.registry.Addresses P (act me).notices) :
    server.registry.Addresses P (s.operateBound server act refused reply).notices := by
  simp only [operateBound]
  split
  · exact h _ ‹_›
  · exact .nil

theorem forward_addresses (key : Key) {kind : NoticeKind} (about : kind ≠ .makeOffer) :
    server.registry.Addresses (fun w => ∃ me, s.me = some me ∧ server.registry.ToPeer key me.id kind w)
      (s.forward server key kind).notices := by
  simp only [forward]
  split
  · rename_i me hme
    simp only [peerPort]
    split
    · rename_i i side hc
      have told := Registry.addresses_notify (r := server.registry)
        (w := ⟨.partner i side.other, kind, key⟩) (fun _ => rfl) about
      exact told.mono fun w hw => ⟨me, hme, i, side, hc, hw⟩
    · exact .nil
  · exact .nil

/-- Whatever signal a session sends, it is for the recipients that it should wake up, and goes to their
ports. -/
theorem dispatch_addresses (h : server.registry.WellFormed) (hd : s.dispatch server signal = .ok d) :
    server.registry.Addresses (s.Wakes server.registry signal) d.notices := by
  cases signal <;> cases hd
  case registerProcessor id _ _ pid port =>
    simp only [register]
    split
    · simp only [operate, Registry.registerProcessor_notices]
      exact .nil
    · exact .nil
  case unregisterProcessor id =>
    simp only [unregister]
    split
    · simp only [operate, Registry.unregisterProcessor_notices]
      exact .nil
    · exact .nil
  case matchOrMake name addressee offering =>
    simp only [share]
    split
    · rename_i me hme
      split
      · rename_i hid
        subst hid
        exact (Registry.matchOrMake_addresses name addressee me).mono fun w hw =>
          .matched me name addressee hme rfl hw
      · exact .nil
    · exact .nil
  case makeOffer key =>
    refine .of_offers fun notice hn => ?_
    simp only [forward, notify] at hn
    split at hn
    · split at hn
      · cases hn
      · rw [List.mem_singleton.1 hn]
    · cases hn
  case retractOffer key =>
    refine (forward_addresses key NoticeKind.noConfusion).mono ?_
    rintro w ⟨me, hme, hw⟩
    exact .forwarded me key hme rfl hw
  case retractVar key =>
    refine operateBound_addresses fun me hme => (Registry.retract_addresses h key me.id).mono ?_
    rintro w ⟨i, hi, hw⟩
    exact .retracted me key i hme rfl hi hw
  case setState key used _ =>
    exact operateBound_addresses fun me hme =>
      (Registry.setState_addresses used).mono fun w hw => .access me key _ hme rfl hw
  case getControl key => exact operateBound_addresses fun _ _ => .nil
  case setControl key control =>
    exact operateBound_addresses fun me hme =>
      (Registry.setControl_addresses control).mono fun w hw => .access me key _ hme rfl hw
  case mayUse key attempt =>
    exact operateBound_addresses fun me hme =>
      (Registry.mayAccess_addresses attempt _ _).mono fun w hw => .access me key _ hme rfl hw
  case maySet key attempt =>
    exact operateBound_addresses fun me hme =>
      (Registry.mayAccess_addresses attempt _ _).mono fun w hw => .access me key _ hme rfl hw
  case assignValue key bytes =>
    simp only [assignValue]
    split <;> exact .nil
  case assignWswsVar key bytes =>
    simp only [assignExchanged]
    split <;> exact .nil
  case addEvent key id event =>
    split
    · exact .nil
    · exact (Registry.addEvent_addresses event id key).mono fun w hw => .event id key event rfl hw
  all_goals exact .nil

theorem finish_addresses (h : server.registry.WellFormed) :
    server.registry.Addresses (s.WakesLeaving server.registry) (s.finish server).notices := by
  cases hm : s.me with
  | none =>
    rw [finish_of_unbound hm]
    exact .nil
  | some me =>
    rw [finish_of_bound hm]
    refine (Registry.leave_addresses h me.id).mono ?_
    rintro w ⟨i, hw⟩
    exact ⟨me, i, hm, hw⟩

/-- A processor that registers, for the first time or again, has the process and the port that it names
from then on, and so has its session; rows stay as they are. -/
theorem register_refreshes (h : server.registry.WellFormed) {id : ProcessorId} {pid : UInt32}
    {port : UInt16} (accepted : (s.register server id pid port).reply = some (.yesNo true)) :
    (s.register server id pid port).session.me = some (.ofProcess id pid port) ∧
      (∃ slot, (s.register server id pid port).server.registry.getSlot id = some slot ∧
        slot.partner.pid = pid ∧ slot.partner.port = port) ∧
      (s.register server id pid port).server.registry.rows = server.registry.rows := by
  simp only [register] at accepted ⊢
  split at accepted
  · rename_i allowed
    have value : (server.registry.registerProcessor id pid port).value = true :=
      Signal.yesNo.inj (Option.some.inj accepted)
    simp only [if_pos allowed, value, ↓reduceIte]
    exact ⟨rfl, Registry.registerProcessor_registers h value, Registry.registerProcessor_rows id pid port⟩
  · cases accepted

end Session

namespace LiveServer

/-- A partner that has never registered another port is woken up at the one that it has registered. -/
theorem letter_port_of_registered {actions : List ServerAction} {w : WakeUp} {i : RowIndex} {side : Side}
    (meant : w.recipient = .partner i side) {p : Partner}
    (hp : ((start.run actions).server.registry.rows.get i).partner side = p) {q : UInt16}
    (registered : (start.run actions).server.registry.udpPort p.id = q)
    (only : ∀ n evconn progname pid port,
      .dispatch n (.registerProcessor p.id evconn progname pid port) ∈ actions → port ≠ 0 → port = q) :
    ((start.run actions).server.registry.letter w).port = q := by
  have sound := (run_sound start_sound actions).registry.rows.sound i
  simp only [Registry.letter, meant, Registry.whom, hp]
  split
  · exact registered
  · rename_i own
    by_cases present : p.Present
    · have held : (start.run actions).Holds i _ p := ⟨rfl, side, by rwa [hp], by rw [hp]⟩
      obtain ⟨n, evconn, progname, mem⟩ := (exists_tenure held).registered
      exact only n evconn progname p.pid p.port mem own
    · rw [← hp] at own present
      exact absurd (sound.port_of_absent present) own

/-- Where wake-ups go, in every state that is reached. All that a signal or the end of a session queues, new
offers apart, are wake-ups of those whom it should wake up, none of them twice, and each goes to the port
of the recipient's side or, if that carries none, to the port that the recipient has registered. A side
carries the process and the port that its session had registered when it shared the variable, and a mere
target carries none. So wake-ups go to the registered port if the partner has registered no other one in
the run. Registering again gives the registration and the session the new process and port, and leaves the
rows alone. -/
theorem wake_ups_go_to_the_port_of_the_side (actions : List ServerAction) :
    let l := start.run actions
    let r := l.server.registry
    (∀ n s, l.sessions n = some s →
      (∀ signal d, s.dispatch l.server signal = .ok d → r.Addresses (s.Wakes r signal) d.notices) ∧
        r.Addresses (s.WakesLeaving r) (s.finish l.server).notices) ∧
      (∀ (i : RowIndex) (side : Side),
        let p := (r.rows.get i).partner side
        (p.Present → Tenure actions i (r.rows.get i).key p) ∧ (¬p.Present → p.port = 0)) ∧
      (∀ (w : WakeUp) (i : RowIndex) (side : Side), w.recipient = .partner i side →
        let p := (r.rows.get i).partner side
        (∀ n evconn progname pid port,
          .dispatch n (.registerProcessor p.id evconn progname pid port) ∈ actions →
            port ≠ 0 → port = r.udpPort p.id) →
        (r.letter w).port = r.udpPort p.id) ∧
      ∀ n s id evconn progname pid port d, l.sessions n = some s →
        s.dispatch l.server (.registerProcessor id evconn progname pid port) = .ok d →
        d.reply = some (.yesNo true) →
        d.session.me = some (.ofProcess id pid port) ∧
          (∃ slot, d.server.registry.getSlot id = some slot ∧
            slot.partner.pid = pid ∧ slot.partner.port = port) ∧
          d.server.registry.rows = r.rows := by
  intro l r
  have sound : l.Sound := run_sound start_sound actions
  refine ⟨fun n s _ => ⟨fun signal d hd => ?_, ?_⟩, fun i side => ⟨fun present => ?_, ?_⟩, ?_, ?_⟩
  · exact Session.dispatch_addresses sound.registry hd
  · exact Session.finish_addresses sound.registry
  · exact exists_tenure ⟨rfl, side, present, rfl⟩
  · exact (sound.registry.rows.sound i).port_of_absent
  · exact fun w i side meant only => letter_port_of_registered meant rfl rfl only
  · rintro n s id evconn progname pid port d - hd accepted
    cases hd
    exact Session.register_refreshes sound.registry accepted

/-- A processor offers a variable, and another one accepts the offer and retracts: the first one is woken up
at the only port that it has registered. -/
theorem wake_ups_go_to_the_port_of_the_side_of_two :
    let a := ProcessorId.single 1001
    let b := ProcessorId.single 1002
    let l := start.run [.connect 0, .connect 1, .dispatch 0 (.registerProcessor a false "" 10 5001),
      .dispatch 1 (.registerProcessor b false "" 20 5002),
      .dispatch 0 (.matchOrMake (.ofText "LEVEL") b a), .dispatch 1 (.matchOrMake (.ofText "LEVEL") a b)]
    let r := l.server.registry
    let row := r.rows.get 0
    row.sideOf a = some .offering ∧ r.udpPort a = 5001 ∧
      (∃ s d, l.sessions 1 = some s ∧ s.dispatch l.server (.retractVar row.key) = .ok d ∧
        r.Addresses (s.Wakes r (.retractVar row.key)) d.notices ∧ d.notices.length = 3) ∧
      (r.letter ⟨.partner 0 .offering, .newEvent .offerRetracted, row.key⟩).port = 5001 := by
  intro a b l r row
  have hid : row.offering.id = a := by decide +kernel
  have port : r.udpPort row.offering.id = 5001 := by rw [hid]; decide +kernel
  have hs : l.sessions 1 = some ⟨some (.ofProcess b 20 5002)⟩ := by decide +kernel
  obtain ⟨sent, -, woken, -⟩ := wake_ups_go_to_the_port_of_the_side [.connect 0, .connect 1,
    .dispatch 0 (.registerProcessor a false "" 10 5001),
    .dispatch 1 (.registerProcessor b false "" 20 5002),
    .dispatch 0 (.matchOrMake (.ofText "LEVEL") b a), .dispatch 1 (.matchOrMake (.ofText "LEVEL") a b)]
  refine ⟨by decide +kernel, by decide +kernel, ⟨_, _, hs, rfl, (sent 1 _ hs).1 _ _ rfl, ?_⟩, ?_⟩
  · decide +kernel
  · refine (woken _ 0 .offering rfl ?_).trans port
    intro n evconn progname pid port' registered some
    have other : b ≠ a := by decide
    rw [show (((start.run _).server.registry.rows.get 0).partner .offering).id = a from hid] at registered
    simp only [List.mem_cons, List.not_mem_nil, or_false, reduceCtorEq, false_or,
      ServerAction.dispatch.injEq, Signal.registerProcessor.injEq, and_false, other.symm, false_and] at registered
    rw [registered.2.2.2.2.2]
    exact port.symm

/-- A processor offers a variable, its offer is accepted, and it registers again with another port. When its
partner retracts, it is told so at the port that it has given up, and nothing goes to the new one. -/
theorem wake_up_goes_to_the_port_given_up :
    let a := ProcessorId.single 1001
    let b := ProcessorId.single 1002
    let l := start.run [.connect 0, .connect 1, .dispatch 0 (.registerProcessor a false "" 10 5001),
      .dispatch 1 (.registerProcessor b false "" 20 5002),
      .dispatch 0 (.matchOrMake (.ofText "LEVEL") b a), .dispatch 1 (.matchOrMake (.ofText "LEVEL") a b),
      .dispatch 0 (.registerProcessor a false "" 10 6001)]
    let row := l.server.registry.rows.get 0
    l.Reachable ∧ l.server.registry.udpPort a = 6001 ∧ row.sideOf a = some .offering ∧
      ∃ s d, l.sessions 1 = some s ∧ s.dispatch l.server (.retractVar row.key) = .ok d ∧
        d.notices = [⟨5001, .newEvent .offerRetracted, row.key⟩, ⟨5001, .retractOffer, row.key⟩,
          ⟨5002, .retractOffer, row.key⟩] := by
  refine ⟨⟨_, rfl⟩, ?_, ?_, ⟨some (.ofProcess (.single 1002) 20 5002)⟩, _, ?_, rfl, ?_⟩
  · decide +kernel
  · decide +kernel
  · decide +kernel
  · decide +kernel

end LiveServer

end SharedVariables
