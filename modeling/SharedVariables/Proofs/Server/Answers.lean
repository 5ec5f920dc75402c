import SharedVariables.Client.Store
import SharedVariables.Proofs.Registry.Report
import SharedVariables.Proofs.Registry.Row
import SharedVariables.Proofs.Signal.Codec
import SharedVariables.Server.Session

/-!
# How calls are answered

`StoreCall.reply?` is the reply that holds an answer to a call. A session answers every call, and the
reply, if the call has one, is of the kind that the caller waits for and fits on the wire
(`Session.dispatch_answers`). A session that is bound to the caller does what the registry does, and
replies with its answer (`Session.dispatch_of_bound`); unregistering and adding no event are the two
exceptions.
-/

namespace SharedVariables

namespace StoreCall

/-- The reply that holds an answer; calls without an answer have none. -/
def reply? : (call : StoreCall) → call.Answer → Option Signal
  | register, yes => some (.yesNo yes)
  | unregister, () => none
  | isRegistered _, yes => some (.yesNo yes)
  | matchOrMake _ _, (key, c) => some (.matchOrMakeResult key c)
  | retract key, c => some (.couplingIs key c)
  | coupling key, c => some (.couplingIs key c)
  | getState key, state => some (.stateIs key state)
  | setState _ _, () => none
  | getControl key, c => some (.controlIs key c)
  | setControl key _, c => some (.controlIs key c)
  | mayUse _ _, yes => some (.yesNo yes)
  | maySet _ _, yes => some (.yesNo yes)
  | getEvents, (key, events) => some (.eventsAre key events)
  | clearAllEvents, events => some (.eventsAre .none events)
  | addEvent _ _ _, () => none
  | offeringProcessors, procs => some (.offeringProcsAre procs)
  | offeredVariables _, names => some (.offeredVarsAre names)
  | findOfferingId _, id => some (.offeringIdIs id)
  | pairingKey _, key => some (.pairingKeyIs key)
  | report, printout => some (.svarDbPrinted printout)

variable {call : StoreCall} {answer : call.Answer}

/-- A reply is of the kind that answers the signal of its call. -/
theorem kind_reply? (me : Partner) (progname : String) (answer : call.Answer) :
    (call.reply? answer).map Signal.kind = (call.signal me progname).answer? := by
  cases call <;> rfl

/-- The caller finds the answer in the reply. -/
theorem unpack?_reply? {reply : Signal} (h : call.reply? answer = some reply) :
    call.unpack? reply = some answer := by
  cases call <;> cases h <;> rfl

/-- A call without a reply has only one answer. -/
theorem eq_neutral_of_reply?_eq_none (h : call.reply? answer = none) : answer = call.neutral := by
  cases call <;> first | rfl | cases h

/-- Only the name of a program can keep the signal of a call from fitting. -/
theorem fits_signal (call : StoreCall) (me : Partner) {progname : String}
    (h : call = .register → progname.utf8ByteSize ≤ 65535) : (call.signal me progname).Fits := by
  cases call with
  | register => exact h rfl
  | setState key used =>
    cases used <;> (show String.utf8ByteSize _ ≤ 65535; decide)
  | _ => trivial

/-- The lists and texts that a registry gives fit, since the registry is bounded. -/
theorem fits_of_answer {r : Registry} {me : Partner} {reply : Signal}
    (h : call.reply? (r.answer me call).value = some reply) : reply.Fits := by
  cases call with
  | offeringProcessors =>
    cases h
    exact Nat.le_trans (r.length_offeringProcessors_le _) (by decide)
  | offeredVariables offering =>
    cases h
    exact Nat.le_trans (r.length_offeredVariables_le _ _) (by decide)
  | report =>
    cases h
    exact r.report_size_le
  | _ => cases h <;> trivial

theorem fits_of_neutral {reply : Signal} (h : call.reply? call.neutral = some reply) :
    reply.Fits := by
  cases call <;> cases h <;> first | trivial | exact Nat.zero_le _

/-- Whether a call does the same at both ends of a connection: unregistering leaves the rows of the
caller alone when it is asked of a server, and adding no event is not done there. -/
def IsPlain : StoreCall → Prop
  | unregister => False
  | addEvent event _ _ => event ≠ .none
  | _ => True

end StoreCall

namespace Session

variable {s : Session} {server : Server} {me : Partner} {call : StoreCall}

/-- How a session answers a call of `me`: the reply holds an answer and fits; the session stays as it
is, but a registration may bind it to `me`, which one that succeeds does. -/
structure Answers (s : Session) (me : Partner) (call : StoreCall) (d : Dispatched)
    (answer : call.Answer) : Prop where
  reply : d.reply = call.reply? answer
  fits : ∀ reply, d.reply = some reply → reply.Fits
  session : d.session = s ∨ call = .register ∧ d.session = ⟨some me.bare⟩
  registered : call = .register → d.reply = some (.yesNo true) → d.session = ⟨some me.bare⟩

namespace Answers

/-- An answer that changes nothing. -/
theorem neutral (hne : call ≠ .register) :
    s.Answers me call (s.idle server (call.reply? call.neutral)) call.neutral where
  reply := rfl
  fits _ := StoreCall.fits_of_neutral
  session := .inl rfl
  registered h := absurd h hne

/-- The answer of the registry. -/
theorem operate (hne : call ≠ .register) (p : Partner) :
    s.Answers me call (s.operate server (server.registry.answer p call) call.reply?)
      (server.registry.answer p call).value where
  reply := rfl
  fits _ := StoreCall.fits_of_answer
  session := .inl rfl
  registered h := absurd h hne

/-- The answer of the registry to the processor of the session, if there is one. -/
theorem operateBound (hne : call ≠ .register) :
    ∃ answer, s.Answers me call
      (s.operateBound server (fun p => server.registry.answer p call) call.neutral call.reply?)
      answer := by
  rw [Session.operateBound]
  split
  · exact ⟨_, operate hne _⟩
  · exact ⟨_, neutral hne⟩

theorem share (name : Name) (addressee offering : ProcessorId) :
    ∃ answer, s.Answers me (.matchOrMake name addressee)
      (s.share server name addressee offering) answer := by
  rw [Session.share]
  split
  · split
    · exact ⟨_, operate (by simp) _⟩
    · exact ⟨_, neutral (by simp)⟩
  · exact ⟨_, neutral (by simp)⟩

theorem register :
    ∃ answer, s.Answers me .register (s.register server me.id me.pid me.port) answer := by
  rw [Session.register]
  split
  · refine ⟨_, rfl, fun _ h => ?_, ?_, fun _ h => ?_⟩
    · cases h
      trivial
    · dsimp only [Session.operate]
      split
      · exact .inr ⟨rfl, rfl⟩
      · exact .inl rfl
    · have registered : (server.registry.registerProcessor me.id me.pid me.port).value = true := by
        simpa [Session.operate] using h
      simp only [Session.operate, registered, if_true]
      rfl
  · refine ⟨false, rfl, fun _ h => ?_, .inl rfl, fun _ h => ?_⟩
    · cases h
      trivial
    · cases h

end Answers

/-- A session answers every call. -/
theorem dispatch_answers (s : Session) (server : Server) (me : Partner) (progname : String)
    (call : StoreCall) :
    ∃ d answer, s.dispatch server (call.signal me progname) = .ok d ∧
      s.Answers me call d answer := by
  cases call with
  | register => exact ⟨_, Answers.register.imp fun _ h => ⟨rfl, h⟩⟩
  | matchOrMake => exact ⟨_, (Answers.share _ _ _).imp fun _ h => ⟨rfl, h⟩⟩
  | unregister =>
    refine ⟨_, (), rfl, ?_⟩
    rw [unregister]
    split
    · exact ⟨rfl, nofun, .inl rfl, nofun⟩
    · exact .neutral (by simp)
  | addEvent event addressee key =>
    refine ⟨_, (), rfl, ?_⟩
    split
    · exact .neutral (by simp)
    · exact .operate (by simp) me
  | retract | setState | getControl | setControl | mayUse | maySet =>
    exact ⟨_, (Answers.operateBound (by simp)).imp fun _ h => ⟨rfl, h⟩⟩
  | _ => exact ⟨_, _, rfl, .operate (by simp) me⟩

theorem register_of_bound (me : Partner) (server : Server) :
    register ⟨some me.bare⟩ server me.id me.pid me.port =
      operate ⟨some me.bare⟩ server (server.registry.registerProcessor me.id me.pid me.port)
        fun yes => some (.yesNo yes) := by
  have own : (some me.bare).all (fun p => decide (p.id = me.id)) = true := decide_eq_true rfl
  rw [register, if_pos own]
  dsimp only
  split <;> rfl

/-- A session that is bound to the caller does what the registry does. -/
theorem dispatch_of_bound (me : Partner) (server : Server) (progname : String)
    (plain : call.IsPlain) :
    dispatch ⟨some me.bare⟩ server (call.signal me progname) =
      .ok (operate ⟨some me.bare⟩ server (server.registry.answer me.bare call) call.reply?) := by
  cases call with
  | unregister => cases plain
  | register => exact congrArg Except.ok (register_of_bound me server)
  | matchOrMake name addressee => exact congrArg Except.ok (if_pos rfl)
  | addEvent event addressee key =>
    have occurs : ¬event.isEmpty = true := fun h => plain (beq_iff_eq.1 h)
    exact congrArg Except.ok (if_neg occurs)
  | _ => rfl

/-- The answer of the registry to the caller that the session is bound to. -/
theorem Answers.of_bound (me : Partner) (server : Server) (call : StoreCall) :
    Answers ⟨some me.bare⟩ me call
      (Session.operate ⟨some me.bare⟩ server (server.registry.answer me.bare call) call.reply?)
      (server.registry.answer me.bare call).value where
  reply := rfl
  fits _ := StoreCall.fits_of_answer
  session := .inl rfl
  registered _ _ := rfl

end Session

end SharedVariables
