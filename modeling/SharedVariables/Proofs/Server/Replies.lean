import SharedVariables.Server.Session

/-!
# Which signals are answered, and how

Of every kind of signal it is fixed whether it is an answer (`SignalKind.IsResponse`), a request, and then
which kind of answer it gets (`SignalKind.answer?`), or a signal that is not answered at all. A session
keeps to it (`Session.dispatch_replies`): it refuses what is an answer, and what it dispatches is answered
by a signal of the kind that is due, about the same variable (`Signal.AnsweredBy`), or by none. There is a
lemma for each way in which signals are dispatched.
-/

namespace SharedVariables

namespace SignalKind

/-- Whether signals of this kind are answers to requests. -/
def IsResponse (k : SignalKind) : Prop := ∃ request : SignalKind, request.answer? = some k

theorem mem_all (k : SignalKind) : k ∈ all := by
  cases k <;> decide

theorem isResponse_iff {k : SignalKind} : k.IsResponse ↔ k ∈ all.filterMap answer? := by
  rw [List.mem_filterMap]
  exact ⟨fun ⟨request, h⟩ => ⟨request, mem_all request, h⟩, fun ⟨request, _, h⟩ => ⟨request, h⟩⟩

instance : DecidablePred IsResponse := fun _ => decidable_of_iff _ isResponse_iff.symm

/-- An answer is not answered in its turn. -/
theorem IsResponse.answer?_eq_none {k : SignalKind} (h : k.IsResponse) : k.answer? = none := by
  revert h
  cases k <;> decide

end SignalKind

/-- The key among some items; it is the first one of them. -/
def Wire.Item.key? : (items : List Item) → Values items → Option Key
  | .key :: _, values => some values.1
  | _, _ => none

namespace Signal

/-- Whether a signal is neither a request nor an answer. -/
def IsOneWay (s : Signal) : Prop := s.answer? = none ∧ ¬s.kind.IsResponse

instance (s : Signal) : Decidable s.IsOneWay := inferInstanceAs (Decidable (_ ∧ _))

/-- The variable that a signal is about, if it is about one. -/
def key? (s : Signal) : Option Key := Wire.Item.key? s.kind.layout s.values

/-- Whether a signal tells a key that was not asked about: that of a new offer, of the other half of a
compound variable, or of a variable with an event. -/
def TellsKey (s : Signal) : Prop :=
  s.kind = .matchOrMakeResult ∨ s.kind = .pairingKeyIs ∨ s.kind = .eventsAre

/-- There is a reply exactly if the signal is a request, and it is of the kind that answers it. If it has
the key of a variable, it is the one that was asked about. -/
structure AnsweredBy (signal : Signal) (reply? : Option Signal) : Prop where
  kind : reply?.map Signal.kind = signal.answer?
  key : ∀ reply key, reply? = some reply → reply.key? = some key → ¬reply.TellsKey →
    signal.key? = some key

namespace AnsweredBy

variable {signal reply : Signal}

theorem none (h : signal.answer? = .none) : signal.AnsweredBy .none where
  kind := h.symm
  key _ _ h := by cases h

/-- A reply with the key of the signal, if it has one. -/
theorem about (kind : signal.answer? = some reply.kind) (key : reply.key? = signal.key?) :
    signal.AnsweredBy (some reply) where
  kind := kind.symm
  key _ key' h hkey _ := by
    cases h
    rw [← key, hkey]

/-- A reply without a key. -/
theorem plain (kind : signal.answer? = some reply.kind) (key : reply.key? = .none) :
    signal.AnsweredBy (some reply) where
  kind := kind.symm
  key _ key' h hkey _ := by
    cases h
    rw [key] at hkey
    cases hkey

/-- A reply that tells a key of its own. -/
theorem telling (kind : signal.answer? = some reply.kind) (tells : reply.TellsKey) :
    signal.AnsweredBy (some reply) where
  kind := kind.symm
  key _ _ h _ asked := by
    cases h
    exact absurd tells asked

end AnsweredBy

end Signal

namespace Session

variable {s : Session} {server : Server} {signal : Signal}

/-! ## The ways in which signals are dispatched -/

theorem operateBound_answered {α : Type} {act : Partner → Outcome α} {refused : α}
    {reply : α → Option Signal} (h : ∀ a, signal.AnsweredBy (reply a)) :
    signal.AnsweredBy (s.operateBound server act refused reply).reply := by
  rw [operateBound]
  split
  · exact h _
  · exact h _

theorem register_answered (id : ProcessorId) (evconn : Bool) (progname : String) (pid : UInt32)
    (port : UInt16) : (Signal.registerProcessor id evconn progname pid port).AnsweredBy
      (s.register server id pid port).reply := by
  rw [register]
  split
  · exact .plain rfl rfl
  · exact .plain rfl rfl

theorem share_answered (name : Name) (addressee offering : ProcessorId) :
    (Signal.matchOrMake name addressee offering).AnsweredBy
      (s.share server name addressee offering).reply := by
  rw [share]
  split
  · split
    · exact .telling rfl (.inl rfl)
    · exact .telling rfl (.inl rfl)
  · exact .telling rfl (.inl rfl)

theorem valueReply_answered (key : Key) (value : Option Bytes) :
    (Signal.getValue key).AnsweredBy (some (valueReply key value)) := by
  cases value with
  | none => exact .about rfl rfl
  | some bytes => exact .about rfl rfl

theorem assignValue_answered (key : Key) (bytes : Bytes) :
    (Signal.assignValue key bytes).AnsweredBy (s.assignValue server key bytes).reply := by
  rw [assignValue]
  split
  · exact .about rfl rfl
  · exact .about rfl rfl

theorem forward_reply (key : Key) (kind : NoticeKind) : (s.forward server key kind).reply = none := by
  rw [forward]
  split <;> rfl

theorem unregister_reply (id : ProcessorId) : (s.unregister server id).reply = none := by
  rw [unregister]
  split <;> rfl

theorem assignExchanged_reply (key : Key) (bytes : Bytes) :
    (s.assignExchanged server key bytes).reply = none := by
  rw [assignExchanged]
  split <;> rfl

/-! ## All signals -/

/-- A session refuses an answer. It dispatches any other signal, and replies to it if it is a request, with
the answer that is due. -/
theorem dispatch_replies (s : Session) (server : Server) (signal : Signal) :
    if signal.kind.IsResponse then s.dispatch server signal = .error (.notARequest signal.kind)
    else ∃ d, s.dispatch server signal = .ok d ∧ signal.AnsweredBy d.reply := by
  cases signal
  case valueIs | svarAssigned | svarRecordIs | yesNo | matchOrMakeResult | offeringIdIs |
      offeringProcsAre | offeredVarsAre | pairingKeyIs | eventsAre | wswsValueIs | svarDbPrinted |
      stateIs | controlIs | couplingIs =>
    rw [if_pos (by simp only [Signal.kind]; decide)]
    rfl
  all_goals
    rw [if_neg (by simp only [Signal.kind]; decide)]
    refine ⟨_, rfl, ?_⟩
  case makeOffer | retractOffer =>
    rw [forward_reply]
    exact .none rfl
  case setState => exact operateBound_answered fun _ => .none rfl
  case unregisterProcessor =>
    rw [unregister_reply]
    exact .none rfl
  case assignWswsVar =>
    rw [assignExchanged_reply]
    exact .none rfl
  case addEvent => split <;> exact .none rfl
  case registerProcessor => exact register_answered ..
  case matchOrMake => exact share_answered ..
  case getValue => exact valueReply_answered ..
  case assignValue => exact assignValue_answered ..
  case retractVar | getControl | setControl => exact operateBound_answered fun _ => .about rfl rfl
  case mayUse | maySet => exact operateBound_answered fun _ => .plain rfl rfl
  case getCoupling | getState => exact .about rfl rfl
  case getEvents | clearAllEvents => exact .telling rfl (.inr (.inr rfl))
  case findPairingKey => exact .telling rfl (.inr (.inl rfl))
  case isRegisteredId | readSvarRecord | findOfferingId | getOfferingProcs | getOfferedVars |
      readWswsVar | printSvarDb =>
    exact .plain rfl rfl

/-- What is dispatched gets its answer. -/
theorem answeredBy_of_dispatch {d : Dispatched} (hd : s.dispatch server signal = .ok d) :
    signal.AnsweredBy d.reply := by
  have replies := s.dispatch_replies server signal
  split at replies
  · rw [hd] at replies
    cases replies
  · obtain ⟨d', hd', answered⟩ := replies
    rw [hd] at hd'
    cases hd'
    exact answered

/-- A request is dispatched, and there is a reply. -/
theorem dispatch_request_reply {kind : SignalKind} (h : signal.answer? = some kind) :
    ∃ d reply, s.dispatch server signal = .ok d ∧ d.reply = some reply ∧ reply.kind = kind := by
  have replies := s.dispatch_replies server signal
  split at replies
  · rename_i response
    have none : signal.answer? = none := response.answer?_eq_none
    rw [h] at none
    cases none
  · obtain ⟨d, hd, answered⟩ := replies
    obtain ⟨reply, hr, hk⟩ := Option.map_eq_some_iff.1 (answered.kind.trans h)
    exact ⟨d, reply, hd, hr, hk⟩

/-- A one-way signal is dispatched, and there is no reply. -/
theorem dispatch_oneWay (h : signal.IsOneWay) :
    ∃ d, s.dispatch server signal = .ok d ∧ d.reply = none := by
  have replies := s.dispatch_replies server signal
  rw [if_neg h.2] at replies
  obtain ⟨d, hd, answered⟩ := replies
  exact ⟨d, hd, Option.map_eq_none_iff.1 (answered.kind.trans h.1)⟩

end Session

end SharedVariables
