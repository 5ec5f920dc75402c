import SharedVariables.Proofs.Server.Answers
import SharedVariables.Proofs.Server.Replies
import SharedVariables.Proofs.Server.Values
import SharedVariables.Proofs.Signal.Spelling

/-!
# Every reply can be sent

A value comes to a server in a signal, behind a length in two bytes (`Signal.length_of_assignment?`), and
a server keeps no other values (`LiveServer.step_valuesFit`, `LiveServer.run_valuesFit`). The rows and
registrations are of bounded size and number. So what a session replies can be written behind a length
in its turn (`Session.dispatch_fits`), and no session is over because it cannot: `LiveServer.Fed` are the
servers that have been fed with bytes, and `LiveServer.replies_can_be_sent` says this of them.
-/

namespace SharedVariables

open Wire

/-! ## What comes behind a length -/

namespace Signal

variable {signal : Signal} {payload : Bytes}

/-- A value that is assigned has come behind a length. -/
theorem length_of_assignment? (h : decode payload = .ok signal) {kind : ValueKind} {key : Key}
    {bytes : Bytes} (ha : kind.assignment? signal = some (key, bytes)) :
    bytes.length ≤ maxStringLength := by
  obtain ⟨⟨k, forms, admitted, _⟩, -, rfl⟩ := decode_eq_ok_iff.1 h
  cases kind with
  | controlled =>
    cases k
    case assignValue =>
      cases ha
      exact admitted.2.1
    all_goals cases ha
  | exchanged =>
    cases k
    case assignWswsVar =>
      cases ha
      exact admitted.2.1
    all_goals cases ha

/-- Whether a signal can have come from a client: it is read from some bytes. -/
def CanArrive (s : Signal) : Prop := ∃ payload, decode payload = .ok s

end Signal

theorem Signal.Fits.canArrive {s : Signal} (h : s.Fits) : s.CanArrive := by
  obtain ⟨payload, encoded⟩ := s.encode_fits.2 h
  exact ⟨payload, decode_payload encoded⟩

/-- Whatever bytes are on their way, a signal that is read can have come from a client. -/
theorem canArrive_of_readFrameServer {buffer : ReceiveBuffer} {source : Source} {signal : Signal}
    (h : (readFrameServer buffer source).result = .ok (some signal)) : signal.CanArrive := by
  have payload {length : Nat} {rest : Source}
      (h : (readPayload (fun _ => false) (fun f => f = .unexpectedEof) buffer length rest).result =
        .ok (some signal)) : signal.CanArrive := by
    rw [readPayload] at h
    split at h
    · cases h
    split at h
    · cases h
    split at h
    · rename_i bs _ _
      rw [Received.ofBuffer] at h
      dsimp only at h
      cases hd : Signal.decode ((buffer.overwrite bs).take length) with
      | error e =>
        rw [hd] at h
        cases h
      | ok signal' =>
        rw [hd] at h
        cases h
        exact ⟨_, hd⟩
    · cases h
    · cases h
  rw [readFrameServer] at h
  dsimp only at h
  split at h
  · exact payload h
  · cases h
  · dsimp only at h
    split at h <;> cases h

/-! ## The values of a server -/

/-- Whether all values that a server keeps can be sent behind a length. -/
def Server.ValuesFit (server : Server) : Prop :=
  ∀ kind : ValueKind, ∀ entry ∈ (kind.table server).entries, entry.2.length ≤ maxStringLength

theorem Server.ValuesFit.get? {server : Server} (h : server.ValuesFit) {kind : ValueKind} {key : Key}
    {bytes : Bytes} (hb : (kind.table server).get? key = some bytes) :
    bytes.length ≤ maxStringLength := by
  obtain ⟨entry, found, rfl⟩ := Option.map_eq_some_iff.1 hb
  exact h kind entry (List.mem_of_find?_eq_some found)

theorem ValueTable.mem_assign {t : ValueTable} {a : Option (Key × Bytes)} {entry : Key × Bytes}
    (h : entry ∈ (t.assign a).entries) : a = some entry ∨ entry ∈ t.entries := by
  rcases a with - | ⟨key, bytes⟩
  · exact .inr h
  · rcases List.mem_cons.1 h with rfl | kept
    · exact .inl rfl
    · exact .inr (List.mem_of_mem_filter kept)

namespace Session

variable {s : Session} {server : Server} {signal : Signal} {d : Dispatched}

theorem dispatch_valuesFit (h : server.registry.WellFormed) (fit : server.ValuesFit)
    (arrives : signal.CanArrive) (hd : s.dispatch server signal = .ok d) : d.server.ValuesFit := by
  intro kind entry mem
  rw [(dispatch_settles kind h hd).table] at mem
  rcases ValueTable.mem_assign (List.mem_of_mem_filter mem) with assigned | kept
  · obtain ⟨payload, decoded⟩ := arrives
    exact Signal.length_of_assignment? decoded (Option.eq_some_of_filter_eq_some assigned)
  · exact fit kind entry kept

theorem finish_valuesFit (fit : server.ValuesFit) : (s.finish server).server.ValuesFit := by
  intro kind entry mem
  cases hm : s.me with
  | none =>
    rw [finish_of_unbound hm] at mem
    exact fit kind entry mem
  | some me =>
    rw [finish_of_bound hm] at mem
    refine fit kind entry ?_
    cases kind <;> exact List.mem_of_mem_filter mem

/-! ## Replies -/

theorem valueReply_fits (fit : server.ValuesFit) (key : Key) :
    (valueReply key (server.values.get? key)).Fits := by
  cases hv : server.values.get? key with
  | none => exact ⟨by decide, by decide⟩
  | some bytes =>
    have kept : (ValueKind.controlled.table server).get? key = some bytes := hv
    exact ⟨by decide, fit.get? kept⟩

theorem wswsValueIs_fits (fit : server.ValuesFit) (key : Key) :
    (Signal.wswsValueIs ((server.exchanged.get? key).getD [])).Fits := by
  cases hv : server.exchanged.get? key with
  | none => exact Nat.zero_le _
  | some bytes =>
    have kept : (ValueKind.exchanged.table server).get? key = some bytes := hv
    exact fit.get? kept

theorem assignValue_fits {key : Key} {bytes : Bytes} {reply : Signal}
    (hr : (s.assignValue server key bytes).reply = some reply) : reply.Fits := by
  rw [assignValue] at hr
  split at hr
  · cases hr
    show String.utf8ByteSize _ ≤ 65535
    decide
  · cases hr
    show String.utf8ByteSize _ ≤ 65535
    decide

end Session

theorem Partner.length_encode (p : Partner) : p.encode.length = 20 := by
  simp only [Partner.encode, List.length_append, Item.length_encodeId, length_bigEndian]

theorem Row.length_encode_le (row : Row) : row.encode.length ≤ 307 := by
  have := Item.length_encodeName_le row.name
  simp only [Row.encode, List.length_append, Partner.length_encode, length_bigEndian,
    List.length_singleton]
  omega

theorem svarRecordIs_fits (row? : Option Row) : (Signal.svarRecordIs (encodeRecord row?)).Fits := by
  cases row? with
  | none => exact Nat.zero_le _
  | some row => exact Nat.le_trans row.length_encode_le (by decide)

/-- The items that are written without a length, or with one that is always large enough. -/
def Wire.Item.IsSmall : Item → Bool
  | .text | .listing | .blob | .numbers | .names => false
  | _ => true

theorem Signal.fits_of_small {s : Signal} {kind : SignalKind} (h : s.kind = kind)
    (small : kind.layout.all Item.IsSmall = true) : s.Fits := by
  subst h
  cases s <;> trivial

namespace Session

variable {s : Session} {server : Server} {signal : Signal} {d : Dispatched}

/-- Every reply fits, since what a server keeps is bounded: a registry by its size, and the values by
the lengths that they came behind. -/
theorem dispatch_fits (fit : server.ValuesFit) (hd : s.dispatch server signal = .ok d)
    {reply : Signal} (hr : d.reply = some reply) : reply.Fits := by
  have kind := (answeredBy_of_dispatch hd).kind
  rw [hr] at kind
  cases signal
  case getValue key =>
    cases hd
    cases hr
    exact valueReply_fits fit key
  case readWswsVar key =>
    cases hd
    cases hr
    exact wswsValueIs_fits fit key
  case assignValue key bytes =>
    cases hd
    exact assignValue_fits hr
  case readSvarRecord key =>
    cases hd
    cases hr
    exact svarRecordIs_fits _
  case getOfferingProcs addressee =>
    cases hd
    cases hr
    exact Nat.le_trans (server.registry.length_offeringProcessors_le addressee) (by decide)
  case getOfferedVars addressee offering =>
    cases hd
    cases hr
    exact Nat.le_trans (server.registry.length_offeredVariables_le addressee offering) (by decide)
  case printSvarDb =>
    cases hd
    cases hr
    exact server.registry.report_size_le
  case retractVar | getCoupling | mayUse | maySet | isRegisteredId | registerProcessor | matchOrMake |
      findOfferingId | findPairingKey | getEvents | clearAllEvents | getState | getControl |
      setControl =>
    exact Signal.fits_of_small (Option.some.inj kind) rfl
  case makeOffer | retractOffer | setState | addEvent | assignWswsVar | unregisterProcessor => cases kind
  all_goals cases hd

end Session

/-! ## Runs -/

/-- Whether an action is one that bytes from clients can bring about. -/
def ServerAction.CanArrive : ServerAction → Prop
  | .dispatch _ signal => signal.CanArrive
  | _ => True

namespace LiveServer

variable {l : LiveServer} {n : Nat} {svc : Service} {action : ServerAction}

/-- Whether a state comes about when sessions are fed with bytes. -/
def Fed (l : LiveServer) : Prop :=
  ∃ actions, (∀ action ∈ actions, action.CanArrive) ∧ start.run actions = l

theorem Fed.run (h : l.Fed) {actions : List ServerAction}
    (arrive : ∀ action ∈ actions, action.CanArrive) : (l.run actions).Fed := by
  obtain ⟨before, arrived, rfl⟩ := h
  refine ⟨before ++ actions, fun action mem => ?_, run_append ..⟩
  rcases List.mem_append.1 mem with mem | mem
  · exact arrived action mem
  · exact arrive action mem

theorem step_valuesFit (h : l.Sound) (fit : l.server.ValuesFit) (arrives : action.CanArrive) :
    (l.step action).server.ValuesFit := by
  rcases l.step_cases action with
    ⟨same, -⟩ | ⟨n, s, signal, d, rfl, -, hd, hserver⟩ | ⟨n, s, rfl, -, hserver⟩
  · rw [same]
    exact fit
  · rw [hserver]
    exact Session.dispatch_valuesFit h.registry fit arrives hd
  · rw [hserver]
    exact Session.finish_valuesFit fit

theorem run_valuesFit (h : l.Sound) (fit : l.server.ValuesFit) {actions : List ServerAction}
    (arrive : ∀ action ∈ actions, action.CanArrive) : (l.run actions).server.ValuesFit := by
  induction actions generalizing l with
  | nil => exact fit
  | cons action actions ih =>
    exact ih (step_sound h action) (step_valuesFit h fit (arrive action List.mem_cons_self))
      fun action mem => arrive action (List.mem_cons_of_mem _ mem)

theorem start_valuesFit : start.server.ValuesFit := by
  intro kind entry mem
  cases kind <;> cases mem

theorem Fed.valuesFit (h : l.Fed) : l.server.ValuesFit := by
  obtain ⟨actions, arrive, rfl⟩ := h
  exact run_valuesFit start_sound start_valuesFit arrive

/-! ### Serving a connection -/

/-- A turn of the loop that serves a connection is fed with whatever has come. -/
theorem Fed.serve (h : l.Fed) (served : l.IsServedBy n svc) :
    ∃ l' : LiveServer, l'.Fed ∧ l'.IsServedBy n svc.step.1 := by
  simp only [Service.step]
  have arrives {signal : Signal}
      (hread : (readFrameServer svc.buffer svc.inbound).result = .ok (some signal)) :=
    canArrive_of_readFrameServer hread
  generalize readFrameServer svc.buffer svc.inbound = received at arrives ⊢
  have read : l.IsServedBy n { svc with buffer := received.buffer, inbound := received.source } :=
    served.of_eq rfl rfl
  split
  · rename_i signal hread
    refine ⟨l.run [.dispatch n signal], h.run fun action mem => ?_, read.react signal⟩
    cases List.mem_singleton.1 mem
    exact arrives hread
  · exact ⟨l, h, read⟩
  · exact ⟨l, h, read⟩

theorem Fed.runFor (h : l.Fed) (served : l.IsServedBy n svc) (fuel : Nat) :
    ∃ l' : LiveServer, l'.Fed ∧ l'.server = (svc.runFor fuel).server := by
  have finish {l : LiveServer} {svc : Service} (h : l.Fed) (served : l.IsServedBy n svc) :
      ∃ l' : LiveServer, l'.Fed ∧ l'.server = svc.finish.server :=
    ⟨l.run [.finish n], h.run (by simp [ServerAction.CanArrive]), congrArg server served.finish⟩
  induction fuel generalizing l svc with
  | zero => exact finish h served
  | succ fuel ih =>
    obtain ⟨l', fed, served'⟩ := h.serve served
    simp only [Service.runFor]
    generalize svc.step = turn at served' ⊢
    obtain ⟨svc', more⟩ := turn
    cases more with
    | false => exact finish fed served'
    | true => exact ih fed served'

/-- A session goes no further if it has been sent an answer, or if the client does not take the reply. -/
theorem Fed.react (h : l.Fed) (served : l.IsServedBy n svc) {signal : Signal}
    (ended : (svc.react signal).2 = false) :
    signal.kind.IsResponse ∨ ∃ d reply frame room, svc.session.dispatch svc.server signal = .ok d ∧
      d.reply = some reply ∧ reply.frame = .ok frame ∧ svc.room = some room ∧ room < frame.length := by
  by_cases response : signal.kind.IsResponse
  · exact .inl response
  have replies := svc.session.dispatch_replies svc.server signal
  rw [if_neg response] at replies
  obtain ⟨d, hd, -⟩ := replies
  have fit : svc.server.ValuesFit := served.server ▸ h.valuesFit
  simp only [Service.react, hd] at ended
  cases hr : d.reply with
  | none =>
    rw [hr] at ended
    cases ended
  | some reply =>
    obtain ⟨frame, hf⟩ := reply.frame_fits.2 (Session.dispatch_fits fit hd hr)
    simp only [hr, Service.write?, hf] at ended
    have same : (svc.after d).room = svc.room := rfl
    cases hroom : svc.room with
    | none =>
      rw [same, hroom] at ended
      cases ended
    | some room =>
      refine .inr ⟨d, reply, frame, room, hd, hr, hf, rfl, ?_⟩
      by_contra enough
      simp only [same, hroom, Nat.le_of_not_lt enough, ↓reduceIte] at ended
      cases ended

/-- Every reply can be sent. Whatever bytes a server has been fed with, what a session replies has a
payload and goes into a frame. So a session that is at work, whatever is on its way to it, is not over
because of a reply that cannot be written, but only if the client has sent an answer or takes no more;
and the server stays one that has been fed with bytes. -/
theorem replies_can_be_sent (h : l.Fed) :
    (∀ n s signal d reply, l.sessions n = some s → s.dispatch l.server signal = .ok d →
      d.reply = some reply →
      ∃ payload, reply.encode = .ok payload ∧ payload.length ≤ maxFrameLength ∧
        reply.frame = .ok (bigEndian 4 payload.length ++ payload)) ∧
      ∀ n svc, l.IsServedBy n svc →
        (∀ signal, (svc.react signal).2 = false → signal.kind.IsResponse ∨
          ∃ d reply frame room, svc.session.dispatch svc.server signal = .ok d ∧
            d.reply = some reply ∧ reply.frame = .ok frame ∧ svc.room = some room ∧
            room < frame.length) ∧
          (∃ l' : LiveServer, l'.Fed ∧ l'.IsServedBy n svc.step.1) ∧
          ∃ l' : LiveServer, l'.Fed ∧ l'.server = svc.run.server := by
  refine ⟨fun n s signal d reply _ hd hr => ?_, fun n svc served => ⟨?_, ?_, ?_⟩⟩
  · obtain ⟨payload, encoded⟩ := reply.encode_fits.2 (Session.dispatch_fits h.valuesFit hd hr)
    exact ⟨payload, encoded, (Signal.length_encode encoded).2, Signal.frame_encode encoded⟩
  · exact fun signal ended => h.react served ended
  · exact h.serve served
  · exact h.runFor served _

/-- A processor assigns a value, and another one that has not introduced itself asks for it. -/
theorem replies_can_be_sent_of_value :
    let id := ProcessorId.single 1001
    let shared := start.run [.connect 0, .connect 1,
      .dispatch 0 (.registerProcessor id false "apl" 10 5001),
      .dispatch 0 (.matchOrMake (.ofText "LEVEL") .general id)]
    let key := (shared.server.registry.rows.get 0).key
    let l := shared.step (.dispatch 0 (.assignValue key [1, 2]))
    l.Fed ∧ ∃ payload, (Signal.valueIs key Signal.noError "" [1, 2]).encode = .ok payload ∧
      payload.length ≤ maxFrameLength := by
  intro id shared key l
  have fed : l.Fed := by
    refine ⟨[.connect 0, .connect 1, .dispatch 0 (.registerProcessor id false "apl" 10 5001),
      .dispatch 0 (.matchOrMake (.ofText "LEVEL") .general id),
      .dispatch 0 (.assignValue key [1, 2])], ?_, rfl⟩
    simp only [List.forall_mem_cons, ServerAction.CanArrive, true_and]
    refine ⟨Signal.Fits.canArrive ?_, Signal.Fits.canArrive trivial, Signal.Fits.canArrive ?_, by simp⟩
    · show String.utf8ByteSize _ ≤ 65535
      decide
    · show List.length _ ≤ 65535
      decide
  have listens : l.sessions 1 = some .unbound := by decide +kernel
  have value : l.server.values.get? key = some [1, 2] := by decide +kernel
  have dispatched (server : Server) (key : Key) : Session.unbound.dispatch server (.getValue key) =
      .ok (Session.unbound.idle server (some (Session.valueReply key (server.values.get? key)))) := rfl
  have replies := dispatched l.server key
  rw [value] at replies
  obtain ⟨payload, encoded, within, -⟩ :=
    (replies_can_be_sent fed).1 1 _ _ _ _ listens replies rfl
  exact ⟨fed, payload, encoded, within⟩

end LiveServer

end SharedVariables
