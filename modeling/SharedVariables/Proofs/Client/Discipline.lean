import SharedVariables.Proofs.Client.Exchange
import SharedVariables.Proofs.Client.FailStop
import SharedVariables.Proofs.Client.Likeness
import SharedVariables.Proofs.Server.Sendable

/-!
# Requests and their answers

What a session replies is what the client waits for. On a connection at rest a request that is written
finds the answer that is due, alone (`Client.finds_of_request`), whatever others have made of the server
in the meantime (`SharedLink`). So the client reads it and the connection is at rest again, or the request
has failed for another reason (`Client.request_comes`); a one-way signal leaves nothing to be read
(`Client.served_of_oneWay`). `Client.Tidy` is what all calls keep, and `Client.Ready` what calls keep whose
arguments fit. `requests_are_answered` says this of any number of calls, beside what holds of a session.
-/

namespace SharedVariables

open Wire

/-! ## What a session makes of a frame -/

/-- A good-bye is read as one. -/
theorem readFrameServer_closeFrame (buffer : ReceiveBuffer) (ending : Option Fault) :
    readFrameServer buffer ⟨[.bytes closeFrame], ending⟩ = ⟨.ok none, buffer, ⟨[], ending⟩⟩ := by
  have header : (⟨[.bytes closeFrame], ending⟩ : Source).fill (fun _ => false) 4 =
      (.complete closeFrame, ⟨[], ending⟩) := rfl
  have zero : ofBigEndian closeFrame = 0 := rfl
  simp only [readFrameServer, header, zero, readPayload, ↓reduceIte]

/-- A stream that has ended says so. -/
theorem readFrame_over (buffer : ReceiveBuffer) :
    readFrame buffer ⟨[], none⟩ = ⟨.ok none, buffer, ⟨[], none⟩⟩ := rfl

namespace Link

variable {l : Link} {signal : Signal} {frame : Bytes} {d : Dispatched}

/-- Whatever the session makes of the bytes that are written to a connection at rest, it does at once. -/
theorem receive_of_step (h : l.AtRest) {bs : Bytes} {svc : Service} {more : Bool}
    (step : { l.service with inbound := ⟨[.bytes bs], some .wouldBlock⟩ }.step = (svc, more))
    (silent : svc.inbound = .silent) :
    l.receive bs = .ok (if more then { l with service := svc }.flush
      else { l with service := svc }.flush.endSession) := by
  have arrived : l.service.inbound.push [.bytes bs] = ⟨[.bytes bs], some .wouldBlock⟩ := by
    rw [h.inbound]
    rfl
  rw [receive, if_pos h.isOpen]
  dsimp only
  rw [arrived, serve]
  dsimp only
  rw [if_neg (by simp), step]
  cases more with
  | true =>
    dsimp only
    rw [serve_of_silent silent]
    rfl
  | false => rfl

/-- What is left of a connection whose session is over: there is nothing to read. -/
theorem outbound_endSession (h : l.AtRest) {svc : Service} (replies : svc.replies = []) :
    ({ l with service := svc }.flush.endSession).outbound = ⟨[], none⟩ := by
  simp only [flush, endSession, h.isOpen, replies, h.outbound, ↓reduceIte]
  rfl

/-- A reply that cannot be sent ends the session. -/
theorem receive_unfit (h : l.AtRest) (hf : signal.frame = .ok frame)
    (hd : l.service.session.dispatch l.service.server signal = .ok d) {reply : Signal}
    (hr : d.reply = some reply) (unfit : ¬reply.Fits) :
    ∃ l', l.receive frame = .ok l' ∧ l'.outbound = ⟨[], none⟩ := by
  obtain ⟨buffer, read⟩ := Signal.readFrameServer_of_frame hf l.service.buffer (some .wouldBlock)
  have unsent : ∃ e, reply.frame = .error e := by
    cases hframe : reply.frame with
    | error e => exact ⟨e, rfl⟩
    | ok frame => exact absurd (reply.frame_fits.1 ⟨frame, hframe⟩) unfit
  obtain ⟨e, hframe⟩ := unsent
  have step : { l.service with inbound := ⟨[.bytes frame], some .wouldBlock⟩ }.step =
      (({ l.service with buffer, inbound := .silent } : Service).after d, false) := by
    rw [Service.step]
    dsimp only
    rw [read]
    simp only [Service.react, hd, hr, Service.write?, hframe]
    rfl
  exact ⟨_, receive_of_step h step rfl, outbound_endSession h h.replies⟩

/-- A good-bye ends the session. -/
theorem receive_closeFrame (h : l.AtRest) :
    ∃ l', l.receive closeFrame = .ok l' ∧ l'.outbound = ⟨[], none⟩ := by
  have step : { l.service with inbound := ⟨[.bytes closeFrame], some .wouldBlock⟩ }.step =
      ({ l.service with inbound := .silent }, false) := by
    rw [Service.step]
    dsimp only
    rw [readFrameServer_closeFrame]
    rfl
  exact ⟨_, receive_of_step h step rfl, outbound_endSession h h.replies⟩

end Link

/-! ## A server that others act on -/

/-- Whether the registry of a server is well formed, and it keeps no value that it could not send. -/
structure Server.Steady (server : Server) : Prop where
  registry : server.registry.WellFormed
  values : server.ValuesFit

theorem Session.dispatch_steady {s : Session} {server : Server} {signal : Signal} {d : Dispatched}
    (h : server.Steady) (arrives : signal.CanArrive) (hd : s.dispatch server signal = .ok d) :
    d.server.Steady where
  registry := h.registry.evolves (dispatch_responds hd).registry
  values := dispatch_valuesFit h.registry h.values arrives hd

/-- A connection to a server that others act on as well. -/
structure SharedLink where
  link : Link
  /-- What others make of the server until the client writes next, then until it writes again, and so
  on. -/
  others : Nat → Server → Server

namespace SharedLink

/-- The server as the session finds it now. -/
def server (l : SharedLink) : Server := l.others 0 l.link.service.server

/-- The link with the server as its session finds it now. -/
def now (l : SharedLink) : Link :=
  { l.link with service := { l.link.service with server := l.server } }

instance : Peer SharedLink where
  receive l bs := (l.now.receive bs).map fun link => ⟨link, fun n => l.others (n + 1)⟩
  inbound l := l.link.outbound
  withInbound l outbound := { l with link := { l.link with outbound } }
  hangUp l := { l with link := l.link.endSession }

/-- Whether the client has read all that has been sent to it. -/
def AllRead (l : SharedLink) : Prop := l.link.outbound.arrivals = []

variable {l : SharedLink} {signal : Signal} {frame : Bytes} {d : Dispatched}

theorem now_atRest (h : l.link.AtRest) : l.now.AtRest :=
  ⟨h.isOpen, h.inbound, h.room, h.replies, h.outbound⟩

theorem receive_eq {bs : Bytes} {link : Link} (h : l.now.receive bs = .ok link) :
    Peer.receive l bs = .ok ⟨link, fun n => l.others (n + 1)⟩ := by
  show (l.now.receive bs).map _ = _
  rw [h]
  rfl

theorem others_of_receive {bs : Bytes} {l' : SharedLink} (h : Peer.receive l bs = .ok l') (n : Nat) :
    l'.others n = l.others (n + 1) := by
  have h : (l.now.receive bs).map _ = Except.ok l' := h
  cases hr : l.now.receive bs with
  | error fault =>
    rw [hr] at h
    cases h
  | ok link =>
    rw [hr] at h
    cases h
    rfl

theorem allRead_atRest (h : l.link.AtRest) : l.AllRead := by
  rw [AllRead, h.outbound]
  rfl

theorem allRead_hangUp (h : l.AllRead) : (Peer.hangUp l).AllRead := by
  show l.link.endSession.outbound.arrivals = []
  rw [Link.endSession]
  split <;> exact h

end SharedLink

/-- A link to a server that nobody else acts on. -/
def Link.alone (l : Link) : SharedLink := ⟨l, fun _ server => server⟩

theorem Link.isLike_alone : Peer.IsLike Link.alone where
  receive _ _ := rfl
  inbound _ := rfl
  withInbound _ _ := rfl
  hangUp _ := rfl

namespace Client

variable {c next : Client SharedLink} {s : Signal} {frame : Bytes}

/-- Nothing is left over on the connection of a client: it is at rest, or given up and all has been
read. -/
inductive Tidy (c : Client SharedLink) : Prop
  | lost (lost : c.connected = false) (read : c.peer.AllRead)
  | resting (connected : c.connected = true) (rest : c.peer.link.AtRest)

theorem Tidy.allRead (h : c.Tidy) : c.peer.AllRead := by
  cases h with
  | lost lost read => exact read
  | resting connected rest => exact SharedLink.allRead_atRest rest

theorem tidy_disconnect (read : c.peer.AllRead) : c.disconnect.Tidy :=
  .lost rfl (SharedLink.allRead_hangUp read)

/-- What a client finds on its connection when it has written a request. -/
inductive Finds (c : Client SharedLink) (s : Signal) (peer : SharedLink) : Prop
  | answer {reply : Signal} (read : c.hears peer = .ok (some reply))
      (due : s.answer? = some reply.kind) (rest : (c.heard peer).peer.link.AtRest)
      (steady : c.peer.server.Steady → (c.heard peer).peer.link.service.server.Steady)
  /-- The answer could not be sent, for the server has values that nobody can have assigned. -/
  | ended (read : c.hears peer = .ok none) (allRead : (c.heard peer).peer.AllRead)
      (unfit : ¬c.peer.server.ValuesFit)

/-- What a client makes of what it finds. -/
theorem read_eq (peer : SharedLink) {result : Except SignalError (Option Signal)}
    {buffer : ReceiveBuffer} {source : Source}
    (read : readFrame c.buffer peer.link.outbound = ⟨result, buffer, source⟩) :
    c.hears peer = result ∧ (c.heard peer).peer.link = { peer.link with outbound := source } := by
  have read : readFrame c.buffer (Peer.inbound peer) = ⟨result, buffer, source⟩ := read
  constructor
  · rw [hears, read]
  · rw [heard, read]
    rfl

/-- A request that is written is answered, unless the answer cannot be sent. -/
theorem finds_of_request (rest : c.peer.link.AtRest) (due : s.answer?.isSome = true)
    (hf : s.frame = .ok frame) : ∃ peer, Peer.receive c.peer frame = .ok peer ∧ c.Finds s peer := by
  obtain ⟨kind, hk⟩ := Option.isSome_iff_exists.1 due
  have now := SharedLink.now_atRest rest
  have arrives : s.CanArrive := (s.frame_fits.1 ⟨frame, hf⟩).canArrive
  obtain ⟨d, reply, hd, hr, hkind⟩ : ∃ d reply,
      c.peer.now.service.session.dispatch c.peer.server s = .ok d ∧
        d.reply = some reply ∧ reply.kind = kind := Session.dispatch_request_reply hk
  by_cases fits : reply.Fits
  · obtain ⟨buffer, received⟩ := Link.receive_frame now hf hd (by simpa [hr] using fits)
    obtain ⟨bs, hbs⟩ := reply.frame_fits.2 fits
    have replied : (c.peer.now.after d buffer).outbound = ⟨[.bytes bs], some .wouldBlock⟩ := by
      simp [Link.after, hr, Link.framesOf, hbs, Except.toOption]
    obtain ⟨buffer', read⟩ := reply.readFrame_of_frame hbs c.buffer (some .wouldBlock)
    rw [← replied] at read
    obtain ⟨hears, heard⟩ := read_eq ⟨c.peer.now.after d buffer, _⟩ read
    refine ⟨_, SharedLink.receive_eq received, .answer hears (by rw [hk, hkind]) ?_ fun steady => ?_⟩
    · rw [heard]
      exact ⟨rfl, now.inbound, now.room, now.replies, rfl⟩
    · rw [heard]
      exact Session.dispatch_steady steady arrives hd
  · obtain ⟨link, received, outbound⟩ := Link.receive_unfit now hf hd hr fits
    have read := readFrame_over c.buffer
    rw [← outbound] at read
    obtain ⟨hears, heard⟩ := read_eq ⟨link, _⟩ read
    refine ⟨_, SharedLink.receive_eq received, .ended hears ?_ fun fit => fits ?_⟩
    · rw [SharedLink.AllRead, heard]
      exact congrArg Source.arrivals outbound
    · exact Session.dispatch_fits fit hd hr

theorem finds_of_written (rest : c.peer.link.AtRest) (due : s.answer?.isSome = true)
    (hf : s.frame = .ok frame) {peer : SharedLink} (hw : Peer.receive c.peer frame = .ok peer) :
    c.Finds s peer := by
  obtain ⟨peer', written, finds⟩ := finds_of_request rest due hf
  rw [hw] at written
  cases written
  exact finds

/-- What a request comes to: it is answered as is due and the connection is at rest again, or it fails,
though not because of another answer, and the connection is given up. -/
inductive Comes (c : Client SharedLink) (s : Signal) : Except SignalError Signal → Client SharedLink → Prop
  | answered {reply : Signal} {next : Client SharedLink} (due : s.answer? = some reply.kind)
      (connected : next.connected = true) (rest : next.peer.link.AtRest)
      (others : ∀ n, next.peer.others n = c.peer.others (n + 1))
      (steady : c.peer.server.Steady → next.peer.link.service.server.Steady) : c.Comes s (.ok reply) next
  | failed {e : SignalError} {next : Client SharedLink}
      (expected : ∀ expected received, e ≠ .unexpectedResponse expected received)
      (lost : next.connected = false) (read : next.peer.AllRead)
      (why : ¬s.Fits ∨ ¬c.peer.server.ValuesFit) : c.Comes s (.error e) next

/-- A signal that cannot be encoded has not been mistaken for another one. -/
theorem frame_error {s : Signal} {e : SignalError} (hf : s.frame = .error e) (limit : Duration)
    (expected received : SignalKind) : e.within limit ≠ .unexpectedResponse expected received := by
  rw [Signal.frame] at hf
  split at hf
  · rw [frameBytes, frameHeader] at hf
    split at hf
    · cases hf
    · cases hf
      exact fun h => by cases h
  · cases hf
    exact fun h => by cases h

theorem request_comes (connected : c.connected = true) (rest : c.peer.link.AtRest)
    (due : s.answer?.isSome = true) : c.Comes s (c.request s).1 (c.request s).2 := by
  have asked := request_asked connected due
  generalize (c.request s).1 = result at asked ⊢
  generalize (c.request s).2 = next at asked ⊢
  cases asked with
  | unencodable hf =>
    refine .failed (frame_error hf _) rfl (SharedLink.allRead_hangUp (SharedLink.allRead_atRest rest))
      (.inl fun fits => ?_)
    obtain ⟨frame, encoded⟩ := s.frame_fits.2 fits
    rw [hf] at encoded
    cases encoded
  | unwritten hf hw =>
    obtain ⟨peer, written, -⟩ := finds_of_request rest due hf
    rw [hw] at written
    cases written
  | closed hf hw hh =>
    cases finds_of_written rest due hf hw with
    | answer read =>
      rw [hh] at read
      cases read
    | ended read allRead unfit =>
      exact .failed (fun _ _ h => by cases h) rfl (SharedLink.allRead_hangUp allRead) (.inr unfit)
  | unread hf hw hh =>
    cases finds_of_written rest due hf hw with
    | answer read =>
      rw [hh] at read
      cases read
    | ended read =>
      rw [hh] at read
      cases read
  | mistaken hf hw hh hk mistaken =>
    cases finds_of_written rest due hf hw with
    | answer read hk' =>
      rw [hh] at read
      cases read
      rw [hk] at hk'
      exact absurd (Option.some.inj hk').symm mistaken
    | ended read =>
      rw [hh] at read
      cases read
  | answered hf hw hh hk =>
    cases finds_of_written rest due hf hw with
    | answer _ _ rest steady =>
      have others := SharedLink.others_of_receive hw
      exact .answered hk connected rest others steady
    | ended read =>
      rw [hh] at read
      cases read

/-- A one-way signal that is written is served, and nothing comes back. -/
theorem served_of_oneWay (rest : c.peer.link.AtRest) (oneWay : s.IsOneWay)
    (hf : s.frame = .ok frame) :
    ∃ peer, Peer.receive c.peer frame = .ok peer ∧ peer.link.AtRest ∧
      (c.peer.server.Steady → peer.link.service.server.Steady) := by
  have now := SharedLink.now_atRest rest
  have arrives : s.CanArrive := (s.frame_fits.1 ⟨frame, hf⟩).canArrive
  obtain ⟨d, hd, hr⟩ : ∃ d, c.peer.now.service.session.dispatch c.peer.server s = .ok d ∧
      d.reply = none := Session.dispatch_oneWay oneWay
  obtain ⟨buffer, received⟩ := Link.receive_frame now hf hd (by simp [hr])
  refine ⟨_, SharedLink.receive_eq received, ⟨rfl, now.inbound, now.room, now.replies, ?_⟩,
    fun steady => Session.dispatch_steady steady arrives hd⟩
  rw [Link.after, hr]
  rfl

/-! ## Any number of calls -/

theorem request_tidy (due : s.answer?.isSome = true) (h : c.Tidy) :
    (c.request s).2.Tidy ∧
      ∀ expected received, (c.request s).1 ≠ .error (.unexpectedResponse expected received) := by
  cases h with
  | lost lost read =>
    rw [request_of_not_connected lost due]
    exact ⟨.lost lost read, fun _ _ h => by cases h⟩
  | resting connected rest =>
    have comes := request_comes connected rest due
    generalize (c.request s).1 = result at comes ⊢
    generalize (c.request s).2 = next at comes ⊢
    cases comes with
    | answered due connected rest => exact ⟨.resting connected rest, fun _ _ h => by cases h⟩
    | failed expected lost read why =>
      exact ⟨.lost lost read, fun k k' h => expected k k' (Except.error.inj h)⟩

theorem post_tidy (oneWay : s.IsOneWay) (h : c.Tidy) : (c.post s).Tidy := by
  cases h with
  | lost lost read =>
    rw [post_of_not_connected lost]
    exact .lost lost read
  | resting connected rest =>
    have told := post_told (s := s) connected
    generalize c.post s = next at told ⊢
    cases told with
    | unencodable hf => exact tidy_disconnect (SharedLink.allRead_atRest rest)
    | unwritten hf hw => exact tidy_disconnect (SharedLink.allRead_atRest rest)
    | written hf hw =>
      obtain ⟨peer, written, rest, -⟩ := served_of_oneWay rest oneWay hf
      rw [hw] at written
      cases written
      exact .resting connected rest

theorem close_tidy (h : c.Tidy) : c.close.Tidy := by
  cases h with
  | lost lost read =>
    rw [close_of_not_connected lost]
    exact .lost lost read
  | resting connected rest =>
    have left := close_left connected
    generalize c.close = next at left ⊢
    cases left with
    | unwritten hw => exact tidy_disconnect (SharedLink.allRead_atRest rest)
    | written hw =>
      obtain ⟨link, received, outbound⟩ := Link.receive_closeFrame (SharedLink.now_atRest rest)
      rw [SharedLink.receive_eq received] at hw
      cases hw
      exact .lost rfl (SharedLink.allRead_hangUp (congrArg Source.arrivals outbound))

/-- A client whose requests are all answered: its connection is at rest, and there is nothing on the server
that cannot be sent, nor do others put it there. -/
structure Ready (c : Client SharedLink) : Prop where
  connected : c.connected = true
  rest : c.peer.link.AtRest
  steady : c.peer.link.service.server.Steady
  others : ∀ n server, server.Steady → (c.peer.others n server).Steady

theorem Ready.others_of_shift (h : c.Ready) {peer : SharedLink}
    (shift : ∀ n, peer.others n = c.peer.others (n + 1)) (n : Nat) (server : Server)
    (steady : server.Steady) : (peer.others n server).Steady := by
  rw [shift]
  exact h.others _ _ steady

theorem Ready.server (h : c.Ready) : c.peer.server.Steady := h.others _ _ h.steady

theorem request_ready (due : s.answer?.isSome = true) (fits : s.Fits) (h : c.Ready) :
    (c.request s).2.Ready ∧ ∃ reply, (c.request s).1 = .ok reply := by
  have comes := request_comes h.connected h.rest due
  generalize (c.request s).1 = result at comes ⊢
  generalize (c.request s).2 = next at comes ⊢
  cases comes with
  | answered due connected rest others steady =>
    exact ⟨⟨connected, rest, steady h.server, h.others_of_shift others⟩, _, rfl⟩
  | failed expected lost read why =>
    rcases why with unfit | unfit
    · exact absurd fits unfit
    · exact absurd h.server.values unfit

theorem post_ready (oneWay : s.IsOneWay) (fits : s.Fits) (h : c.Ready) : (c.post s).Ready := by
  obtain ⟨frame, hf⟩ := s.frame_fits.2 fits
  obtain ⟨peer, written, rest, steady⟩ := served_of_oneWay h.rest oneWay hf
  have told := post_told (s := s) h.connected
  generalize c.post s = next at told ⊢
  cases told with
  | unencodable hf' =>
    rw [hf] at hf'
    cases hf'
  | unwritten hf' hw =>
    rw [hf] at hf'
    cases hf'
    rw [written] at hw
    cases hw
  | written hf' hw =>
    rw [hf] at hf'
    cases hf'
    rw [written] at hw
    cases hw
    exact ⟨h.connected, rest, steady h.server, h.others_of_shift (SharedLink.others_of_receive written)⟩

end Client

namespace ClientCall

/-- Whether what is passed on with a call can be written behind a length: the name of the program, or a
value. -/
def Fits (progname : String) : ClientCall → Prop
  | store .register => progname.utf8ByteSize ≤ 65535
  | assignValue _ value _ _ => value.length ≤ 65535
  | assignExchanged _ value => value.length ≤ 65535
  | _ => True

end ClientCall

theorem StoreCall.sends_fits (me : Partner) {progname : String} (call : StoreCall)
    (h : call = .register → progname.utf8ByteSize ≤ 65535) :
    (call.dialogue me progname).Sends Signal.Fits False := by
  have fits := call.fits_signal me h
  rw [dialogue]
  split
  · exact ⟨fits, fun _ => trivial⟩
  · exact ⟨fits, trivial⟩

theorem Dialogue.sends_waiting {policy : RetryPolicy} {ask : Int32 → Dialogue Bool}
    {sent : Signal → Prop} {leaves : Prop} (sends : ∀ attempt, (ask attempt).Sends sent leaves)
    (clock : List Duration) (attempt : Int32) :
    (waiting policy ask clock attempt).Sends sent leaves := by
  induction clock generalizing attempt with
  | nil => exact (sends attempt).bind fun _ => trivial
  | cons elapsed clock ih =>
    refine (sends attempt).bind fun yes => ?_
    split
    · trivial
    split
    · trivial
    · exact ih _

/-- All signals of a call fit if what is passed on fits. -/
theorem ClientCall.sends_fits (me : Partner) {progname : String} {call : ClientCall}
    (fits : call.Fits progname) (stays : call ≠ .close) :
    (call.dialogue me progname).Sends Signal.Fits False := by
  cases call with
  | store call => exact call.sends_fits me fun h => by subst h; exact fits
  | readRecord key => exact ⟨trivial, fun _ => trivial⟩
  | assignValue key value policy clock =>
    have attempts (attempt : Int32) :
        ((StoreCall.maySet key attempt).dialogue me progname).Sends Signal.Fits False :=
      StoreCall.sends_fits me _ nofun
    refine (Dialogue.sends_waiting attempts clock 0).bind fun granted => ?_
    match granted with
    | none => trivial
    | some false => trivial
    | some true =>
      refine (StoreCall.sends_fits me (.setState key false) nofun).bind fun _ => ?_
      exact Dialogue.Sends.bind ⟨fits, fun _ => trivial⟩ fun _ => trivial
  | readValue key policy clock =>
    have attempts (attempt : Int32) :
        ((StoreCall.mayUse key attempt).dialogue me progname).Sends Signal.Fits False :=
      StoreCall.sends_fits me _ nofun
    refine (Dialogue.sends_waiting attempts clock 0).bind fun granted => ?_
    match granted with
    | none => trivial
    | some false => trivial
    | some true =>
      refine Dialogue.Sends.bind ⟨trivial, fun _ => trivial⟩ fun value? => ?_
      cases value? with
      | none => trivial
      | some value =>
        exact (StoreCall.sends_fits me (.setState key true) nofun).bind fun _ => trivial
  | assignExchanged key value => exact ⟨fits, trivial⟩
  | readExchanged key => exact ⟨trivial, fun _ => trivial⟩
  | close => exact absurd rfl stays

/-! ## Requests and answers -/

/-- A session that is sent an answer goes no further and changes nothing. -/
theorem react_response (svc : Service) {signal : Signal} (h : signal.kind.IsResponse) :
    svc.react signal = (svc, false) := by
  have replies := svc.session.dispatch_replies svc.server signal
  rw [if_pos h] at replies
  rw [Service.react, replies]

theorem step_response (l : LiveServer) (n : Nat) {signal : Signal} (h : signal.kind.IsResponse) :
    l.step (.dispatch n signal) = l := by
  cases hn : l.sessions n with
  | none => simp only [LiveServer.step, hn]
  | some s =>
    have replies := s.dispatch_replies l.server signal
    rw [if_pos h] at replies
    exact LiveServer.step_dispatch_error hn replies

/-- Requests are answered, and nothing else is. Whatever the state of a server, a session refuses a signal
exactly if it is an answer, and then nothing changes; to any other it replies as is due. So a client whose
connection was at rest meets no other answer than it waits for, whatever calls it makes and whatever others
do to the server in the meantime, and none of its calls leaves anything to be read. If what is passed on
with the calls can be sent, and so can the values that the server keeps and those that others put there,
then the client stays connected until it says good-bye, and all its requests are answered. A client of a
server that nobody else acts on is a special case. -/
theorem requests_are_answered :
    (∀ (s : Session) (server : Server) (signal : Signal),
      ((∃ e, s.dispatch server signal = .error e) ↔ signal.kind.IsResponse) ∧
        ∀ d, s.dispatch server signal = .ok d → signal.AnsweredBy d.reply) ∧
      (∀ signal : Signal, signal.kind.IsResponse →
        (∀ l : LiveServer, ∀ n, l.step (.dispatch n signal) = l) ∧
          ∀ svc : Service, svc.react signal = (svc, false)) ∧
      (∀ c : Client SharedLink, c.peer.link.AtRest → ∀ calls : List ClientCall,
        (c.after calls).peer.AllRead ∧
          (∀ result ∈ c.results calls, ∀ expected received,
            result ≠ .error (.unexpectedResponse expected received)) ∧
          (c.connected = true → c.peer.link.service.server.Steady →
            (∀ n server, server.Steady → (c.peer.others n server).Steady) →
            (∀ call ∈ calls, call.Fits c.config.progname ∧ call ≠ .close) →
            (c.after calls).connected = true ∧ (c.after calls).peer.link.AtRest ∧
              ∀ result ∈ c.results calls, ∃ reply, result = .ok reply)) ∧
      ∀ (c : Client Link) (calls : List ClientCall),
        (c.taking Link.alone).after calls = (c.after calls).taking Link.alone ∧
          (c.taking Link.alone).results calls = c.results calls := by
  refine ⟨fun s server signal => ⟨?_, fun d => Session.answeredBy_of_dispatch⟩, fun signal h =>
    ⟨fun l n => step_response l n h, fun svc => react_response svc h⟩, fun c rest calls => ?_,
    fun c calls => ⟨c.after_taking Link.isLike_alone calls, c.results_taking Link.isLike_alone calls⟩⟩
  · have replies := s.dispatch_replies server signal
    split at replies
    · rename_i response
      exact ⟨fun _ => response, fun _ => ⟨_, replies⟩⟩
    · rename_i request
      obtain ⟨d, hd, -⟩ := replies
      rw [hd]
      exact ⟨fun ⟨e, h⟩ => (nomatch h), fun response => absurd response request⟩
  have tidy : c.Tidy := by
    cases connected : c.connected with
    | true => exact .resting connected rest
    | false => exact .lost connected (SharedLink.allRead_atRest rest)
  obtain ⟨left, expected⟩ := Client.after_of_sends (P := Client.Tidy)
    (Q := fun result => ∀ expected received, result ≠ .error (.unexpectedResponse expected received))
    (fun c s due _ h => Client.request_tidy due h) (fun c s oneWay _ h => Client.post_tidy oneWay h)
    (fun _ c h => Client.close_tidy h) ⟨rfl, rfl⟩
    (fun call (_ : call ∈ calls) => (call.dialogue c.me c.config.progname).sends_any) tidy
  refine ⟨left.allRead, expected, fun connected steady others passed => ?_⟩
  obtain ⟨ready, answered⟩ := Client.after_of_sends (P := Client.Ready)
    (Q := fun result => ∃ reply, result = .ok reply)
    (fun c s due fits h => Client.request_ready due fits h)
    (fun c s oneWay fits h => Client.post_ready oneWay fits h) (fun never => never.elim) ⟨rfl, rfl⟩
    (fun call mem => ClientCall.sends_fits c.me (passed call mem).1 (passed call mem).2)
    ⟨connected, rest, steady, others⟩
  exact ⟨ready.connected, ready.rest, answered⟩

/-- A connection that has just been made is at rest. -/
example (server : Server) : (Link.ofServer server).alone.link.AtRest := ⟨rfl, rfl, rfl, rfl, rfl⟩

end SharedVariables
