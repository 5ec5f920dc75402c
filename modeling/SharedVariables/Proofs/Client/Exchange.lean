import SharedVariables.Proofs.Server.Answers
import SharedVariables.Server.Link

/-!
# A call over a connection

A connection is at rest when both its ends are there and nothing is on its way (`Client.AtRest`). A
signal that a client then writes is answered at once: the session dispatches it and the reply is what
the client finds (`Link.receive_frame`). So a call comes back with the answer that the session gave, and
the connection is at rest again (`Client.call_atRest`). Without a connection the answer is the neutral
one (`Client.call_of_not_connected`).
-/

namespace SharedVariables

/-- The stream of a peer that is there and has sent nothing more. -/
def Source.silent : Source := ⟨[], some .wouldBlock⟩

/-! ## The session's end -/

namespace Service

variable {svc : Service} {signal : Signal} {d : Dispatched}

/-- A session answers a signal when the reply fits and the client takes it. -/
theorem react_of_dispatch (hd : svc.session.dispatch svc.server signal = .ok d)
    (room : svc.room = none) (fits : ∀ reply, d.reply = some reply → reply.Fits) :
    svc.react signal = ({ svc.after d with replies := d.reply.toList ++ svc.replies }, true) := by
  rw [react, hd]
  dsimp only
  cases hr : d.reply with
  | none => rfl
  | some reply =>
    obtain ⟨frame, hf⟩ := reply.frame_fits.2 (fits reply hr)
    have room : (svc.after d).room = none := room
    simp only [write?, hf, room]
    rfl

/-- A session reads the frame that has arrived and answers its signal. -/
theorem step_of_frame (svc : Service) {frame : Bytes}
    (inbound : svc.inbound = ⟨[.bytes frame], some .wouldBlock⟩)
    (hf : signal.frame = .ok frame)
    (hd : svc.session.dispatch svc.server signal = .ok d)
    (room : svc.room = none) (fits : ∀ reply, d.reply = some reply → reply.Fits) :
    ∃ buffer, svc.step =
      (⟨d.session, d.server, buffer, .silent, none, d.reply.toList ++ svc.replies,
        svc.notices ++ d.notices⟩, true) := by
  obtain ⟨session, server, buffer, inbound, room, replies, notices⟩ := svc
  dsimp only at *
  subst inbound room
  obtain ⟨buffer', read⟩ := Signal.readFrameServer_of_frame hf buffer (some .wouldBlock)
  refine ⟨buffer', ?_⟩
  rw [step, read]
  exact react_of_dispatch hd rfl fits

end Service

namespace Link

variable {l : Link} {signal : Signal} {frame : Bytes} {d : Dispatched}

/-- Both ends are there, and nothing is on its way between them. -/
structure AtRest (l : Link) : Prop where
  isOpen : l.isOpen = true
  inbound : l.service.inbound = .silent
  room : l.service.room = none
  replies : l.service.replies = []
  outbound : l.outbound = .silent

theorem serve_of_silent (h : l.service.inbound = .silent) (fuel : Nat) : l.serve fuel = l := by
  cases fuel with
  | zero => rfl
  | succ fuel => rw [serve, if_pos (by rw [h]; rfl)]

/-- The connection after its session has dispatched a signal: the reply is on its way. -/
def after (l : Link) (d : Dispatched) (buffer : ReceiveBuffer) : Link where
  service :=
    { l.service with
      session := d.session
      server := d.server
      buffer
      notices := l.service.notices ++ d.notices }
  isOpen := true
  outbound := ⟨framesOf d.reply.toList, some .wouldBlock⟩

/-- A signal that is written to a connection at rest is served, and then there is nothing more to
serve. -/
theorem receive_frame (h : l.AtRest) (hf : signal.frame = .ok frame)
    (hd : l.service.session.dispatch l.service.server signal = .ok d)
    (fits : ∀ reply, d.reply = some reply → reply.Fits) :
    ∃ buffer, l.receive frame = .ok (l.after d buffer) := by
  obtain ⟨service, isOpen, outbound⟩ := l
  obtain ⟨rfl, inbound, room, replies, rfl⟩ := h
  dsimp only at *
  have arrived : service.inbound.push [.bytes frame] = ⟨[.bytes frame], some .wouldBlock⟩ := by
    rw [inbound]
    rfl
  obtain ⟨buffer, step⟩ := Service.step_of_frame
    { service with inbound := service.inbound.push [.bytes frame] } arrived hf hd room fits
  refine ⟨buffer, ?_⟩
  rw [receive, if_pos rfl]
  dsimp only
  rw [serve, step]
  simp only [arrived]
  rw [if_neg (by simp), serve_of_silent rfl]
  simp only [after, inbound, room, replies, List.append_nil]
  rfl

end Link

/-! ## The client's end -/

namespace Client

/-- A client whose connection is at rest. -/
structure AtRest (c : Client Link) : Prop where
  connected : c.connected = true
  link : c.peer.AtRest

/-- What a client is after its session has dispatched a signal: at rest again, and as it was but for
what the session did. -/
structure Served (c : Client Link) (d : Dispatched) (c' : Client Link) : Prop where
  atRest : c'.AtRest
  config : c'.config = c.config
  me : c'.me = c.me
  session : c'.peer.service.session = d.session
  server : c'.peer.service.server = d.server
  notices : c'.peer.service.notices = c.peer.service.notices ++ d.notices

variable {c : Client Link} {signal : Signal} {d : Dispatched}

/-- The client has read all that its session replied. -/
theorem served_of_after (h : c.AtRest) (buffer buffer' : ReceiveBuffer) :
    c.Served d
      { c with buffer := buffer', peer := { c.peer.after d buffer with outbound := .silent } } where
  atRest := ⟨h.connected, rfl, h.link.inbound, h.link.room, h.link.replies, rfl⟩
  config := rfl
  me := rfl
  session := rfl
  server := rfl
  notices := rfl

theorem writeSignal_atRest (h : c.AtRest) (fits : signal.Fits)
    (hd : c.peer.service.session.dispatch c.peer.service.server signal = .ok d)
    (hfits : ∀ reply, d.reply = some reply → reply.Fits) :
    ∃ buffer, c.writeSignal signal = .ok { c with peer := c.peer.after d buffer } := by
  obtain ⟨frame, hf⟩ := signal.frame_fits.2 fits
  obtain ⟨buffer, received⟩ := Link.receive_frame h.link hf hd hfits
  refine ⟨buffer, ?_⟩
  have received : Peer.receive c.peer frame = .ok (c.peer.after d buffer) := received
  rw [writeSignal, hf]
  dsimp only
  rw [received]

/-- A one-way signal that a session does not reply to. -/
theorem post_atRest (h : c.AtRest) (fits : signal.Fits)
    (hd : c.peer.service.session.dispatch c.peer.service.server signal = .ok d)
    (hr : d.reply = none) : c.Served d (c.post signal) := by
  obtain ⟨buffer, written⟩ := writeSignal_atRest h fits hd (by simp [hr])
  have nothing : (c.peer.after d buffer).outbound = .silent := by
    rw [Link.after, hr]
    rfl
  rw [post, send, if_pos h.connected, written]
  have := served_of_after (d := d) h buffer c.buffer
  rwa [← nothing] at this

/-- A request finds the reply of its session, which is of the kind that it waits for. -/
theorem request_atRest (h : c.AtRest) (fits : signal.Fits)
    (hd : c.peer.service.session.dispatch c.peer.service.server signal = .ok d) {reply : Signal}
    (hr : d.reply = some reply) (hfits : reply.Fits) (hkind : signal.answer? = some reply.kind) :
    ∃ c', c.request signal = (.ok reply, c') ∧ c.Served d c' := by
  obtain ⟨buffer, written⟩ := writeSignal_atRest h fits hd (by simpa [hr] using hfits)
  obtain ⟨frame, hf⟩ := reply.frame_fits.2 hfits
  have replied : (c.peer.after d buffer).outbound = ⟨[.bytes frame], some .wouldBlock⟩ := by
    simp [Link.after, hr, Link.framesOf, hf, Except.toOption]
  obtain ⟨buffer', read⟩ := reply.readFrame_of_frame hf c.buffer (some .wouldBlock)
  rw [← replied] at read
  have read : readFrame c.buffer (Peer.inbound (c.peer.after d buffer)) =
      ⟨.ok (some reply), buffer', .silent⟩ := read
  refine ⟨_, ?_, served_of_after h buffer buffer'⟩
  rw [request, hkind]
  dsimp only
  rw [if_pos h.connected, exchange, written]
  dsimp only
  rw [readSignal, read]
  dsimp only
  rw [if_pos rfl]
  rfl

variable {call : StoreCall} {answer : call.Answer}

theorem call_of_answer? {kind : SignalKind}
    (h : (call.signal c.me c.config.progname).answer? = some kind) :
    c.call call = c.ask (call.signal c.me c.config.progname) call.neutral call.unpack? := by
  rw [Client.call]
  exact if_pos (by rw [h]; rfl)

theorem call_of_one_way (h : (call.signal c.me c.config.progname).answer? = none) :
    c.call call = (call.neutral, c.post (call.signal c.me c.config.progname)) := by
  rw [Client.call]
  exact if_neg (by rw [h]; decide)

/-- A call comes back with the answer that the session has given. -/
theorem call_atRest (h : c.AtRest) (fits : (call.signal c.me c.config.progname).Fits)
    (hd : c.peer.service.session.dispatch c.peer.service.server
      (call.signal c.me c.config.progname) = .ok d)
    (ha : c.peer.service.session.Answers c.me call d answer) :
    ∃ c', c.call call = (answer, c') ∧ c.Served d c' := by
  have hkind := StoreCall.kind_reply? c.me c.config.progname answer
  cases hr : call.reply? answer with
  | none =>
    rw [hr] at hkind
    rw [call_of_one_way hkind.symm, ← StoreCall.eq_neutral_of_reply?_eq_none hr]
    exact ⟨_, rfl, post_atRest h fits hd (ha.reply.trans hr)⟩
  | some reply =>
    rw [hr] at hkind
    have replied := ha.reply.trans hr
    obtain ⟨c', hc, served⟩ := request_atRest h fits hd replied (ha.fits _ replied) hkind.symm
    refine ⟨c', ?_, served⟩
    rw [call_of_answer? hkind.symm, ask, hc]
    dsimp only
    rw [StoreCall.unpack?_reply? hr]
    rfl

/-! ## Clients without a connection -/

theorem call_of_not_connected (h : c.connected = false) : c.call call = (call.neutral, c) := by
  cases hk : (call.signal c.me c.config.progname).answer? with
  | none => rw [call_of_one_way hk, post, send, if_neg (by simp [h])]
  | some kind =>
    rw [call_of_answer? hk, ask, request, hk]
    dsimp only
    rw [if_neg (by simp [h])]

/-- The name of a program can be too long to be sent; then the client gives its connection up. -/
theorem register_of_not_fits (h : ¬(StoreCall.register.signal c.me c.config.progname).Fits) :
    (c.call .register).1 = false ∧ (c.call .register).2.connected = false := by
  by_cases connected : c.connected = true
  · have unsent : ∃ e, c.exchange (StoreCall.register.signal c.me c.config.progname) .yesNo =
        (.error e, c) := by
      rw [exchange, writeSignal]
      cases hf : (StoreCall.register.signal c.me c.config.progname).frame with
      | error e => exact ⟨e, rfl⟩
      | ok frame => exact absurd ((Signal.frame_fits _).1 ⟨frame, hf⟩) h
    obtain ⟨e, hf⟩ := unsent
    have waits : (StoreCall.register.signal c.me c.config.progname).answer? = some .yesNo := rfl
    rw [call_of_answer? waits, ask, request, waits]
    dsimp only
    rw [if_pos connected, hf]
    exact ⟨rfl, rfl⟩
  · rw [call_of_not_connected (by simpa using connected)]
    exact ⟨rfl, by simpa using connected⟩

/-! ## A server that others have changed -/

/-- The client when its session finds a server in the given state. -/
def facing (c : Client Link) (server : Server) : Client Link :=
  { c with peer := { c.peer with service := { c.peer.service with server, notices := [] } } }

theorem AtRest.facing (h : c.AtRest) (server : Server) : (c.facing server).AtRest :=
  ⟨h.connected, h.link.isOpen, h.link.inbound, h.link.room, h.link.replies, h.link.outbound⟩

theorem actOn_eq {α : Type} (c : Client Link) (server : Server)
    (act : Client Link → α × Client Link) :
    c.actOn server act =
      ⟨(act (c.facing server)).1, (act (c.facing server)).2,
        (act (c.facing server)).2.peer.service.server,
        (act (c.facing server)).2.peer.service.notices⟩ := rfl

/-- A call on a server comes back with the answer of the session; the server and the notifications are
those of the session too. -/
theorem actOn_call (h : c.AtRest) {server : Server}
    (fits : (call.signal c.me c.config.progname).Fits)
    (hd : c.peer.service.session.dispatch server (call.signal c.me c.config.progname) = .ok d)
    (ha : c.peer.service.session.Answers c.me call d answer) :
    ∃ c', (c.actOn server fun c => c.call call) = ⟨answer, c', d.server, d.notices⟩ ∧
      (c.facing server).Served d c' := by
  obtain ⟨c', hc, served⟩ := call_atRest (h.facing server) fits hd ha
  refine ⟨c', ?_, served⟩
  rw [actOn_eq, hc]
  dsimp only
  rw [served.server, served.notices]
  rfl

end Client

end SharedVariables
