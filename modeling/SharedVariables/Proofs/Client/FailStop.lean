import Mathlib.Logic.Relation
import SharedVariables.Client.Script
import SharedVariables.Proofs.Client.Dialogue
import SharedVariables.Proofs.Stream.Taking

/-!
# Clients that fail stop

`Client.Asked`, `Client.Told` and `Client.Left` say what a request, a one-way signal and a good-bye come
to over a connection, whatever the peer does (`Client.request_asked`, `Client.post_told`,
`Client.close_left`): whatever fails ends the connection. A client that makes calls goes through such
steps (`Client.after_steps`). Without a connection there are none. A dialogue in which no request is
answered comes to the neutral value of its call (`ClientCall.unanswered_dialogue`), with the attempts of
one that waits all refused (`Dialogue.unanswered_waiting`). `Client.client_fails_stop` puts this together.
-/

namespace SharedVariables

namespace Client

variable {σ : Type} [Peer σ]

/-! ## What one signal comes to -/

/-- The client after it has written something to its peer, which is `peer` now, and has read once. -/
def heard (c : Client σ) (peer : σ) : Client σ :=
  let received := readFrame c.buffer (Peer.inbound peer)
  { c with buffer := received.buffer, peer := Peer.withInbound peer received.source }

/-- What a connected client reads when its peer is `peer`. -/
def hears (c : Client σ) (peer : σ) : Except SignalError (Option Signal) :=
  (readFrame c.buffer (Peer.inbound peer)).result

/-- What a request comes to: nothing is written of it and the connection is given up; or one frame is
written and the stream is read once, and then the connection goes on if what has been read is an answer of
the kind that is due, and else it is given up. -/
inductive Asked (c : Client σ) (s : Signal) : Except SignalError Signal → Client σ → Prop
  | unencodable {e : SignalError} (unencodable : s.frame = .error e) :
    c.Asked s (.error (e.within c.config.timeout)) c.disconnect
  | unwritten {frame : Bytes} {fault : Fault} (encoded : s.frame = .ok frame)
      (unwritten : Peer.receive c.peer frame = .error fault) :
    c.Asked s (.error ((SignalError.io fault).within c.config.timeout)) c.disconnect
  | closed {frame : Bytes} {peer : σ} (encoded : s.frame = .ok frame)
      (written : Peer.receive c.peer frame = .ok peer) (closed : c.hears peer = .ok none) :
    c.Asked s (.error .closed) (c.heard peer).disconnect
  /-- No signal can be read, or not in time. -/
  | unread {frame : Bytes} {peer : σ} {e : SignalError} (encoded : s.frame = .ok frame)
      (written : Peer.receive c.peer frame = .ok peer) (unread : c.hears peer = .error e) :
    c.Asked s (.error (e.within c.config.timeout)) (c.heard peer).disconnect
  | mistaken {frame : Bytes} {peer : σ} {reply : Signal} {expected : SignalKind}
      (encoded : s.frame = .ok frame) (written : Peer.receive c.peer frame = .ok peer)
      (read : c.hears peer = .ok (some reply)) (due : s.answer? = some expected)
      (mistaken : reply.kind ≠ expected) :
    c.Asked s (.error (.unexpectedResponse expected reply.kind)) (c.heard peer).disconnect
  | answered {frame : Bytes} {peer : σ} {reply : Signal} (encoded : s.frame = .ok frame)
      (written : Peer.receive c.peer frame = .ok peer)
      (read : c.hears peer = .ok (some reply)) (answered : s.answer? = some reply.kind) :
    c.Asked s (.ok reply) (c.heard peer)

/-- What a one-way signal comes to: one frame is written and nothing is read, or nothing is written and the
connection is given up. -/
inductive Told (c : Client σ) (s : Signal) : Client σ → Prop
  | unencodable {e : SignalError} (unencodable : s.frame = .error e) : c.Told s c.disconnect
  | unwritten {frame : Bytes} {fault : Fault} (encoded : s.frame = .ok frame)
      (unwritten : Peer.receive c.peer frame = .error fault) : c.Told s c.disconnect
  | written {frame : Bytes} {peer : σ} (encoded : s.frame = .ok frame)
      (written : Peer.receive c.peer frame = .ok peer) : c.Told s { c with peer }

/-- What a good-bye comes to: the connection is given up, whether or not the good-bye is written. -/
inductive Left (c : Client σ) : Client σ → Prop
  | unwritten {fault : Fault} (unwritten : Peer.receive c.peer closeFrame = .error fault) :
    c.Left c.disconnect
  | written {peer : σ} (written : Peer.receive c.peer closeFrame = .ok peer) :
    c.Left { c with peer }.disconnect

/-- What can happen to a client at all, as long as it is connected. -/
inductive Step (c : Client σ) : Client σ → Prop
  | asked {s : Signal} {result : Except SignalError Signal} {c' : Client σ}
      (connected : c.connected = true) (due : s.answer?.isSome = true) (asked : c.Asked s result c') :
    c.Step c'
  | told {s : Signal} {c' : Client σ} (connected : c.connected = true) (oneWay : s.IsOneWay)
      (told : c.Told s c') : c.Step c'
  | left {c' : Client σ} (connected : c.connected = true) (left : c.Left c') : c.Step c'

variable {c : Client σ} {s : Signal}

/-- A signal is encoded and written, or one of the two fails. -/
theorem writeSignal_eq (c : Client σ) (s : Signal) :
    (∃ e, s.frame = .error e ∧ c.writeSignal s = .error e) ∨
      (∃ frame fault, s.frame = .ok frame ∧ Peer.receive c.peer frame = .error fault ∧
        c.writeSignal s = .error (.io fault)) ∨
      ∃ frame peer, s.frame = .ok frame ∧ Peer.receive c.peer frame = .ok peer ∧
        c.writeSignal s = .ok { c with peer } := by
  cases hf : s.frame with
  | error e => exact .inl ⟨e, rfl, by rw [writeSignal, hf]⟩
  | ok frame =>
    cases hw : Peer.receive c.peer frame with
    | error fault =>
      refine .inr (.inl ⟨frame, fault, rfl, hw, ?_⟩)
      rw [writeSignal, hf]
      dsimp only
      rw [hw]
    | ok peer =>
      refine .inr (.inr ⟨frame, peer, rfl, hw, ?_⟩)
      rw [writeSignal, hf]
      dsimp only
      rw [hw]

/-- Reading gives what is heard, or the end of the stream as an error. -/
theorem readSignal_eq (c : Client σ) (peer : σ) : readSignal { c with peer } =
    ((c.hears peer).bind fun reply? => reply?.elim (.error .closed) .ok, c.heard peer) := by
  simp only [readSignal, hears, heard]
  cases (readFrame c.buffer (Peer.inbound peer)).result with
  | error e => rfl
  | ok reply? => cases reply? <;> rfl

theorem request_asked (connected : c.connected = true) (due : s.answer?.isSome = true) :
    c.Asked s (c.request s).1 (c.request s).2 := by
  obtain ⟨kind, hk⟩ := Option.isSome_iff_exists.1 due
  simp only [request, hk, connected, ↓reduceIte, exchange]
  rcases c.writeSignal_eq s with
    ⟨e, hf, hw⟩ | ⟨frame, fault, hf, hp, hw⟩ | ⟨frame, peer, hf, hp, hw⟩
  · rw [hw]
    exact .unencodable hf
  · rw [hw]
    exact .unwritten hf hp
  rw [hw]
  dsimp only
  rw [readSignal_eq]
  cases hh : c.hears peer with
  | error e => exact .unread hf hp hh
  | ok reply? =>
    cases reply? with
    | none => exact .closed hf hp hh
    | some reply =>
      simp only [Except.bind, Option.elim_some]
      by_cases same : reply.kind = kind
      · rw [if_pos same]
        exact .answered hf hp hh (by rw [hk, same])
      · rw [if_neg same]
        exact .mistaken hf hp hh hk same

theorem post_told (connected : c.connected = true) : c.Told s (c.post s) := by
  simp only [post, send, connected, ↓reduceIte]
  rcases c.writeSignal_eq s with
    ⟨e, hf, hw⟩ | ⟨frame, fault, hf, hp, hw⟩ | ⟨frame, peer, hf, hp, hw⟩
  · rw [hw]
    exact .unencodable hf
  · rw [hw]
    exact .unwritten hf hp
  · rw [hw]
    exact .written hf hp

theorem close_left (connected : c.connected = true) : c.Left c.close := by
  simp only [close, connected, ↓reduceIte]
  cases hp : Peer.receive c.peer closeFrame with
  | error fault => exact .unwritten hp
  | ok peer => exact .written hp

/-- A connection goes on after an answer that was due, and only then. -/
theorem Asked.connected_eq {result : Except SignalError Signal} {c' : Client σ}
    (h : c.Asked s result c') (connected : c.connected = true) : c'.connected = result.isOk := by
  cases h with
  | answered => exact connected
  | _ => rfl

/-! ## Without a connection -/

theorem request_of_not_connected (h : c.connected = false) (due : s.answer?.isSome = true) :
    c.request s = (.error .notConnected, c) := by
  obtain ⟨kind, hk⟩ := Option.isSome_iff_exists.1 due
  simp only [request, hk, h, Bool.false_eq_true, ↓reduceIte]

theorem post_of_not_connected (h : c.connected = false) : c.post s = c := by
  simp only [post, send, h, Bool.false_eq_true, ↓reduceIte]

theorem close_of_not_connected (h : c.connected = false) : c.close = c := by
  simp only [close, h, Bool.false_eq_true, ↓reduceIte]

end Client

namespace Dialogue

variable {α β : Type}

/-- What a dialogue comes to if no request is answered. -/
def unanswered : Dialogue α → α
  | settled value => value
  | ask _ _ next => (next none).unanswered
  | tell _ _ next => next.unanswered
  | leave next => next.unanswered

theorem unanswered_bind (d : Dialogue α) (f : α → Dialogue β) :
    (d.bind f).unanswered = (f d.unanswered).unanswered := by
  induction d with
  | settled value => rfl
  | ask s due next ih => exact ih none
  | tell s oneWay next ih => exact ih
  | leave next ih => exact ih

/-- Without a connection a dialogue does nothing. -/
theorem run_of_not_connected {σ : Type} [Peer σ] (d : Dialogue α) {c : Client σ}
    (h : c.connected = false) : d.run c = (d.unanswered, c) := by
  induction d with
  | settled value => rfl
  | ask s due next ih =>
    rw [run, Client.request_of_not_connected h due]
    exact ih none
  | tell s oneWay next ih =>
    rw [run, Client.post_of_not_connected h]
    exact ih
  | leave next ih =>
    rw [run, Client.close_of_not_connected h]
    exact ih

/-- Who is never granted access is refused when time is up. -/
theorem unanswered_waiting {policy : RetryPolicy} {ask : Int32 → Dialogue Bool}
    (refused : ∀ attempt, (ask attempt).unanswered = false) (clock : List Duration) (attempt : Int32) :
    (waiting policy ask clock attempt).unanswered =
      if clock.any (policy.IsOver ·) then some false else none := by
  induction clock generalizing attempt with
  | nil =>
    rw [waiting, unanswered_bind, refused]
    rfl
  | cons elapsed clock ih =>
    rw [waiting, unanswered_bind, refused, if_neg Bool.false_ne_true, List.any_cons]
    by_cases late : policy.IsOver elapsed
    · simp only [late, ↓reduceIte, decide_true, Bool.true_or]
      rfl
    · simp only [late, ↓reduceIte, decide_false, Bool.false_or]
      exact ih _

end Dialogue

theorem StoreCall.unanswered_dialogue (me : Partner) (progname : String) (call : StoreCall) :
    (call.dialogue me progname).unanswered = call.neutral := by
  rw [StoreCall.dialogue]
  split <;> rfl

/-- A call that is not answered has its neutral value. -/
theorem ClientCall.unanswered_dialogue (me : Partner) (progname : String) (call : ClientCall) :
    (call.dialogue me progname).unanswered = call.neutral := by
  cases call with
  | store call => exact call.unanswered_dialogue me progname
  | readRecord key => rfl
  | assignExchanged key value => rfl
  | readExchanged key => rfl
  | close => rfl
  | assignValue key value policy clock =>
    rw [dialogue, Dialogue.unanswered_bind,
      Dialogue.unanswered_waiting fun _ => StoreCall.unanswered_dialogue .., neutral]
    by_cases late : clock.any (policy.IsOver ·) = true
    · rw [if_pos late]
      rfl
    · rw [if_neg late]
      rfl
  | readValue key policy clock =>
    rw [dialogue, Dialogue.unanswered_bind,
      Dialogue.unanswered_waiting fun _ => StoreCall.unanswered_dialogue .., neutral]
    by_cases late : clock.any (policy.IsOver ·) = true
    · rw [if_pos late, if_pos late]
      rfl
    · rw [if_neg late, if_neg late]
      rfl

namespace Client

variable {σ : Type} [Peer σ] {c : Client σ}

/-- Without a connection a call has its neutral value and does nothing. -/
theorem make_of_not_connected (h : c.connected = false) (call : ClientCall) :
    c.make call = (call.neutral, c) := by
  rw [make_eq_run, Dialogue.run_of_not_connected _ h, ClientCall.unanswered_dialogue]

theorem after_of_not_connected (h : c.connected = false) (calls : List ClientCall) :
    c.after calls = c := by
  induction calls with
  | nil => rfl
  | cons call calls ih =>
    have made : (c.make call).2 = c := by rw [make_of_not_connected h]
    rw [after, List.foldl_cons, made]
    exact ih

/-! ## Any number of calls -/

/-- Calls make a client go through steps. -/
theorem after_steps (c : Client σ) (calls : List ClientCall) :
    Relation.ReflTransGen Step c (c.after calls) := by
  refine after_induction (P := Relation.ReflTransGen Step c) (fun c' s due h => ?_)
    (fun c' s oneWay h => ?_) (fun c' h => ?_) calls .refl
  · cases connected : c'.connected with
    | true => exact h.tail (.asked connected due (request_asked connected due))
    | false => rwa [request_of_not_connected connected due]
  · cases connected : c'.connected with
    | true => exact h.tail (.told connected oneWay (post_told connected))
    | false => rwa [post_of_not_connected connected]
  · cases connected : c'.connected with
    | true => exact h.tail (.left connected (close_left connected))
    | false => rwa [close_of_not_connected connected]

/-- A request without an answer has its neutral value. -/
theorem ask_eq {α : Type} (c : Client σ) (s : Signal) (neutral : α) (unpack? : Signal → Option α) :
    c.ask s neutral unpack? = (match (c.request s).1 with
      | .ok reply => (unpack? reply).getD neutral
      | .error _ => neutral, (c.request s).2) := by
  rw [ask]
  cases c.request s with
  | mk result c => cases result <;> rfl

/-- A client fails stop, whatever its peer does. However many calls it has made, nothing has happened to
it but requests, one-way signals and good-byes, each of them on a connection that it had. A request writes
one frame and takes at most one off the stream; unless that holds an answer of the kind that is due, or if
nothing could be encoded or written, the request has its neutral value and the connection is given up. A
one-way signal takes nothing off the stream. Without a connection, every call has its neutral value and
leaves the client as it is. -/
theorem client_fails_stop (c : Client σ) (calls : List ClientCall) :
    let c' := c.after calls
    Relation.ReflTransGen Step c c' ∧
      (∀ call, c'.make call = (call.dialogue c'.me c'.config.progname).run c') ∧
      (c'.connected = true →
        (∀ s : Signal, s.answer?.isSome = true → ∃ result next,
          c'.request s = (result, next) ∧ c'.Asked s result next ∧ next.connected = result.isOk ∧
            ∀ (α : Type) (neutral : α) (unpack? : Signal → Option α),
              c'.ask s neutral unpack? = (match result with
                | .ok reply => (unpack? reply).getD neutral
                | .error _ => neutral, next)) ∧
          (∀ s : Signal, s.IsOneWay → c'.Told s (c'.post s)) ∧ c'.Left c'.close) ∧
      (∀ buffer source, ∃ taken, (readFrame buffer source).TakesOneFrame source taken) ∧
      (c'.connected = false → ∀ call more,
        c'.make call = (call.neutral, c') ∧ c'.after more = c') := by
  intro c'
  refine ⟨c.after_steps calls, c'.make_eq_run, fun connected => ⟨fun s due => ?_, fun s _ => ?_, ?_⟩,
    readFrame_takes, fun lost call more => ⟨?_, ?_⟩⟩
  · have asked := request_asked connected due
    refine ⟨(c'.request s).1, (c'.request s).2, rfl, asked, ?_, fun α neutral unpack? => ?_⟩
    · exact asked.connected_eq connected
    · exact c'.ask_eq s neutral unpack?
  · exact post_told connected
  · exact close_left connected
  · exact make_of_not_connected lost call
  · exact after_of_not_connected lost more

/-- A peer that sends an answer of another kind, and then the one that would be due. -/
example :
    let config : ClientConfig := ⟨.unixPath "/run/svars", .ofSeconds 5, "apl"⟩
    let frame (s : Signal) : Bytes := s.frame.toOption.getD []
    let peer := (Script.silent.queue (frame (.yesNo true))).queue (frame (.couplingIs .none .coupled))
    let c := Client.connect config (.ofProcess (.single 1001) 10 5001) peer true
    let (answer, c') := c.make (.store (.coupling .none))
    answer = Coupling.none ∧ c'.connected = false ∧
      c'.peer.received = [frame (.getCoupling .none)] ∧
      (c'.make (.store (.coupling .none))).1 = Coupling.none ∧
      (c'.make (.store (.coupling .none))).2.peer.received = [frame (.getCoupling .none)] := by
  decide +kernel

end Client

end SharedVariables
