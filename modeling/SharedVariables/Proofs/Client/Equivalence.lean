import Mathlib.Logic.Function.Basic
import SharedVariables.Local.Handle
import SharedVariables.Proofs.Client.Exchange
import SharedVariables.Proofs.Registry.Operation

/-!
# A registry far away

A client that is registered at a server has there what a handle of the same processor has at hand
(`Client.IsRegistered.actOn_call`): its calls give the same answers, leave the same registry and send the
same notifications. Two calls are excepted, and `StoreCall.IsPlain` tells which. So processors that
take turns do not notice whether they are clients of a server or work on the registry itself
(`ServedSystem.served_as_at_hand`), whoever else takes a turn between them.
-/

namespace SharedVariables

namespace Client

/-! ## Registered clients -/

/-- The clients that come about by calls over a connection, however the server has changed in between;
`true` if a registration of theirs has been answered with yes. -/
inductive History : Bool → Client Link → Prop
  | connect (config : ClientConfig) (me : Partner) (server : Server) (reachable : Bool) :
    History false (.connect config me (.ofServer server) reachable)
  | call {registered : Bool} {c : Client Link} (before : History registered c) (server : Server)
      (call : StoreCall) : History registered (c.actOn server fun c => c.call call).client
  | registered {registered : Bool} {c : Client Link} (before : History registered c)
      (server : Server) (yes : (c.actOn server fun c => c.call .register).value = true) :
    History true (c.actOn server fun c => c.call .register).client

/-- Whether a client has been told that it is registered. -/
def IsRegistered (c : Client Link) : Prop := History true c

/-- What the calls of a client can have come to. -/
inductive Standing : Bool → Client Link → Prop
  | lost {c : Client Link} (lost : c.connected = false) : Standing false c
  | unbound {c : Client Link} (rest : c.AtRest) (session : c.peer.service.session = .unbound) :
    Standing false c
  | bound {registered : Bool} {c : Client Link} (rest : c.AtRest)
      (session : c.peer.service.session = ⟨some c.me.bare⟩)
      (fits : c.config.progname.utf8ByteSize ≤ 65535) : Standing registered c

variable {registered : Bool} {c : Client Link}

theorem connect_standing (config : ClientConfig) (me : Partner) (server : Server)
    (reachable : Bool) : Standing false (.connect config me (.ofServer server) reachable) := by
  cases hc : (connect config me (Link.ofServer server) reachable).connected with
  | false => exact .lost hc
  | true => exact .unbound ⟨hc, rfl, rfl, rfl, rfl, rfl⟩ rfl

/-- A call of a client whose connection is at rest is answered by its session. -/
theorem AtRest.actOn_call (h : c.AtRest) (server : Server) (call : StoreCall)
    (fits : (call.signal c.me c.config.progname).Fits) :
    ∃ d answer c', (c.actOn server fun c => c.call call) = ⟨answer, c', d.server, d.notices⟩ ∧
      c.peer.service.session.Answers c.me call d answer ∧ (c.facing server).Served d c' := by
  obtain ⟨d, answer, hd, ha⟩ :=
    c.peer.service.session.dispatch_answers server c.me c.config.progname call
  obtain ⟨c', hc, served⟩ := Client.actOn_call h fits hd ha
  exact ⟨d, answer, c', hc, ha, served⟩

theorem Served.bound {server : Server} {d : Dispatched} {c' : Client Link}
    (h : (c.facing server).Served d c') (session : d.session = ⟨some c.me.bare⟩)
    (fits : c.config.progname.utf8ByteSize ≤ 65535) : Standing registered c' := by
  refine .bound h.atRest ?_ ?_
  · rw [h.session, session, h.me]
    rfl
  · rw [h.config]
    exact fits

theorem actOn_call_of_not_connected (h : c.connected = false) (server : Server)
    (call : StoreCall) :
    (c.actOn server fun c => c.call call) = ⟨call.neutral, c.facing server, server, []⟩ := by
  have lost : (c.facing server).call call = (call.neutral, c.facing server) :=
    call_of_not_connected h
  rw [actOn_eq, lost]
  rfl

/-- A call keeps what a client has come to. Only a registration can be too large to be sent. -/
theorem Standing.call (h : Standing registered c) (server : Server) (call : StoreCall) :
    Standing registered (c.actOn server fun c => c.call call).client := by
  cases h with
  | lost lost =>
    rw [actOn_call_of_not_connected lost]
    exact .lost lost
  | bound rest session fits =>
    obtain ⟨d, answer, c', hc, ha, served⟩ :=
      rest.actOn_call server call (call.fits_signal c.me fun _ => fits)
    rw [hc]
    refine served.bound ?_ fits
    rcases ha.session with same | ⟨-, bound⟩
    · rw [same, session]
    · exact bound
  | unbound rest session =>
    by_cases fits : (call.signal c.me c.config.progname).Fits
    · obtain ⟨d, answer, c', hc, ha, served⟩ := rest.actOn_call server call fits
      rw [hc]
      rcases ha.session with same | ⟨rfl, bound⟩
      · exact .unbound served.atRest (by rw [served.session, same, session])
      · exact served.bound bound fits
    · have register : call = .register :=
        by_contra fun hne => fits (call.fits_signal c.me fun h => absurd h hne)
      subst register
      exact .lost (register_of_not_fits (c := c.facing server) fits).2

/-- A registration that is answered with yes has bound the session. -/
theorem Standing.register (h : Standing registered c) (server : Server)
    (yes : (c.actOn server fun c => c.call .register).value = true) :
    Standing true (c.actOn server fun c => c.call .register).client := by
  have told (rest : c.AtRest) (fits : c.config.progname.utf8ByteSize ≤ 65535) :
      Standing true (c.actOn server fun c => c.call .register).client := by
    obtain ⟨d, answer, c', hc, ha, served⟩ := rest.actOn_call server .register fits
    rw [hc] at yes ⊢
    dsimp only at yes
    subst yes
    exact served.bound (ha.registered rfl ha.reply) fits
  cases h with
  | lost lost =>
    rw [actOn_call_of_not_connected lost] at yes
    cases yes
  | bound rest session fits => exact told rest fits
  | unbound rest session =>
    by_cases fits : c.config.progname.utf8ByteSize ≤ 65535
    · exact told rest fits
    · have refused := (register_of_not_fits (c := c.facing server) fits).1
      rw [actOn_eq] at yes
      exact absurd (refused.symm.trans yes) (by decide)

theorem History.standing (h : History registered c) : Standing registered c := by
  induction h with
  | connect config me server reachable => exact connect_standing config me server reachable
  | call before server call ih => exact ih.call server call
  | registered before server yes ih => exact ih.register server yes

/-- A client that is registered has for every call the answer of the registry. -/
theorem IsRegistered.actOn_call (h : c.IsRegistered) (server : Server) {call : StoreCall}
    (plain : call.IsPlain) :
    let outcome := server.registry.answer c.me.bare call
    ∃ c', (c.actOn server fun c => c.call call) =
      ⟨outcome.value, c', server.withRegistry outcome.registry, outcome.notices⟩ ∧
      c'.IsRegistered ∧ c'.me = c.me := by
  cases h.standing with
  | bound rest session fits =>
    have fits := call.fits_signal c.me fun _ => fits
    have hd := Session.dispatch_of_bound c.me server c.config.progname plain
    have ha := Session.Answers.of_bound c.me server call
    rw [← session] at hd ha
    obtain ⟨c', hc, served⟩ := Client.actOn_call rest fits hd ha
    refine ⟨c', hc, ?_, served.me⟩
    have later := History.call h server call
    rwa [hc] at later

end Client

/-! ## Processors that take turns -/

/-- A turn: a processor makes a call, or somebody else does something to the registry. -/
inductive Turn where
  /-- A call of the processor with a number. -/
  | call (n : Nat) (call : StoreCall)
  | other (op : Operation)

/-- What there is to see of a turn: the answer, if there was a call, the registry afterwards and the
notifications that were sent. -/
structure Sight where
  answer : Option ((call : StoreCall) × call.Answer)
  registry : Registry
  notices : List Notice

/-- A server and its clients. -/
structure ServedSystem where
  clients : Nat → Client Link
  server : Server

/-- A registry and the handles of the processes on its host. -/
structure LocalSystem where
  handles : Nat → Handle
  registry : Registry

namespace ServedSystem

/-- A turn of a client. -/
def turn (s : ServedSystem) : Turn → Sight × ServedSystem
  | .call n call =>
    let done := (s.clients n).actOn s.server fun c => c.call call
    (⟨some ⟨call, done.value⟩, done.server.registry, done.notices⟩,
      ⟨Function.update s.clients n done.client, done.server⟩)
  | .other op =>
    let done := s.server.registry.perform op
    (⟨none, done.registry, done.notices⟩, ⟨s.clients, s.server.withRegistry done.registry⟩)

/-- What there is to see of turns, first to last. -/
def run (s : ServedSystem) : List Turn → List Sight
  | [] => []
  | turn :: turns => (s.turn turn).1 :: (s.turn turn).2.run turns

end ServedSystem

namespace LocalSystem

/-- A turn of a handle. -/
def turn (l : LocalSystem) : Turn → Sight × LocalSystem
  | .call n call =>
    let done := (l.handles n).call l.registry call
    (⟨some ⟨call, done.value⟩, done.registry, done.notices⟩, ⟨l.handles, done.registry⟩)
  | .other op =>
    let done := l.registry.perform op
    (⟨none, done.registry, done.notices⟩, ⟨l.handles, done.registry⟩)

/-- What there is to see of turns, first to last. -/
def run (l : LocalSystem) : List Turn → List Sight
  | [] => []
  | turn :: turns => (l.turn turn).1 :: (l.turn turn).2.run turns

end LocalSystem

namespace ServedSystem

/-- The same processors are on either side, and the registries are equal. -/
structure Mirrors (s : ServedSystem) (l : LocalSystem) : Prop where
  handles : ∀ n, l.handles n =
    .attached (s.clients n).me.id (s.clients n).me.pid (s.clients n).me.port
  registry : l.registry = s.server.registry

/-- A turn may be a call that does the same on either side, of a client that is registered. -/
def Allows (s : ServedSystem) : Turn → Prop
  | .call n call => (s.clients n).IsRegistered ∧ call.IsPlain
  | .other _ => True

variable {s : ServedSystem} {l : LocalSystem}

theorem handle_call (me : Partner) (r : Registry) (call : StoreCall) :
    (Handle.attached me.id me.pid me.port).call r call = r.answer me.bare call := by
  rw [Handle.call, Handle.withRegistry]
  exact if_pos rfl

/-- A call of a registered client is a call of the handle at the registry. -/
theorem Mirrors.call (h : s.Mirrors l) {n : Nat} {call : StoreCall}
    (registered : (s.clients n).IsRegistered) (plain : call.IsPlain) :
    let outcome := (l.handles n).call l.registry call
    ∃ c', ((s.clients n).actOn s.server fun c => c.call call) =
      ⟨outcome.value, c', s.server.withRegistry outcome.registry, outcome.notices⟩ ∧
      c'.IsRegistered ∧ c'.me = (s.clients n).me := by
  rw [h.handles, h.registry, handle_call]
  exact registered.actOn_call s.server plain

/-- A turn is seen to be the same on either side, and afterwards the sides are alike again. -/
theorem Mirrors.turn (h : s.Mirrors l) {turn : Turn} (allowed : s.Allows turn) :
    (s.turn turn).1 = (l.turn turn).1 ∧ (s.turn turn).2.Mirrors (l.turn turn).2 ∧
      ∀ turn', s.Allows turn' → (s.turn turn).2.Allows turn' := by
  cases turn with
  | other op =>
    rw [ServedSystem.turn, LocalSystem.turn, h.registry]
    refine ⟨rfl, ⟨h.handles, rfl⟩, fun turn' h' => ?_⟩
    cases turn' <;> exact h'
  | call n call =>
    obtain ⟨c', hc, registered, hme⟩ := h.call allowed.1 allowed.2
    rw [ServedSystem.turn, LocalSystem.turn, hc]
    have clients (m : Nat) : (Function.update s.clients n c' m).me = (s.clients m).me ∧
        ((s.clients m).IsRegistered → (Function.update s.clients n c' m).IsRegistered) := by
      by_cases hm : m = n
      · subst hm
        rw [Function.update_self]
        exact ⟨hme, fun _ => registered⟩
      · rw [Function.update_of_ne hm]
        exact ⟨rfl, id⟩
    refine ⟨rfl, ⟨fun m => ?_, rfl⟩, fun turn' h' => ?_⟩
    · dsimp only
      rw [(clients m).1, h.handles]
    · cases turn' with
      | other op => trivial
      | call m call' => exact ⟨(clients m).2 h'.1, h'.2⟩

theorem Mirrors.run (h : s.Mirrors l) (turns : List Turn)
    (allowed : ∀ turn ∈ turns, s.Allows turn) : s.run turns = l.run turns := by
  induction turns generalizing s l with
  | nil => rfl
  | cons turn turns ih =>
    obtain ⟨seen, mirrors, allows⟩ := h.turn (allowed turn List.mem_cons_self)
    rw [ServedSystem.run, LocalSystem.run, seen]
    exact congrArg _ (ih mirrors fun turn' h' =>
      allows turn' (allowed turn' (List.mem_cons_of_mem turn h')))

/-- Registered clients of a server are served as handles of the same processors are at an equal
registry: a call gives the same answer, leaves the same registry and sends the same notifications in
the same order. So they see the same however they take turns, whatever else is done to the registry
in between. -/
theorem served_as_at_hand (h : s.Mirrors l) :
    (∀ n call, (s.clients n).IsRegistered → call.IsPlain →
      let served := (s.clients n).actOn s.server fun c => c.call call
      let done := (l.handles n).call l.registry call
      served.value = done.value ∧ served.server.registry = done.registry ∧
        served.notices = done.notices) ∧
      ∀ turns, (∀ turn ∈ turns, s.Allows turn) → s.run turns = l.run turns := by
  refine ⟨fun n call registered plain => ?_, h.run⟩
  obtain ⟨c', hc, -⟩ := h.call registered plain
  dsimp only
  rw [hc]
  exact ⟨rfl, rfl, rfl⟩

/-- Two processors register and offer each other a variable; then somebody adds an event for one of them,
the other asks for its events, and the registry is printed. -/
theorem served_as_at_hand_of_two :
    let config : ClientConfig := ⟨.unixPath "/run/svars", .ofSeconds 5, "apl"⟩
    let p := Partner.ofProcess (.single 1001) 10 5001
    let q := Partner.ofProcess (.single 1002) 20 5002
    let first := (Client.connect config p (.ofServer .empty) true).actOn .empty
      fun c => c.call .register
    let second := (Client.connect config q (.ofServer .empty) true).actOn first.server
      fun c => c.call .register
    let s : ServedSystem := ⟨fun n => if n = 0 then first.client else second.client, second.server⟩
    let l : LocalSystem :=
      ⟨fun n => if n = 0 then .attached p.id p.pid p.port else .attached q.id q.pid q.port,
        s.server.registry⟩
    let turns : List Turn :=
      [.call 0 (.matchOrMake (.ofText "LEVEL") q.id), .call 1 (.matchOrMake (.ofText "LEVEL") p.id),
        .other (.addEvent .useFailed q.id .none), .call 0 .getEvents, .call 1 .report]
    s.Mirrors l ∧ (∀ turn ∈ turns, s.Allows turn) ∧ s.run turns = l.run turns ∧
      (l.run turns).map (fun seen => seen.notices.length) = [1, 2, 1, 0, 0] := by
  intro config p q first second s l turns
  have one : first.client.IsRegistered :=
    .registered (.connect config p .empty true) .empty (by decide +kernel)
  have two : second.client.IsRegistered :=
    .registered (.connect config q .empty true) first.server (by decide +kernel)
  have registered (n : Nat) : (s.clients n).IsRegistered := by
    by_cases hn : n = 0
    · simpa only [s, hn, if_true] using one
    · simpa only [s, hn, if_false] using two
  have mirrors : s.Mirrors l := by
    refine ⟨fun n => ?_, rfl⟩
    by_cases hn : n = 0
    · simp only [l, s, hn, if_true]
      decide +kernel
    · simp only [l, s, hn, if_false]
      decide +kernel
  have allowed : ∀ turn ∈ turns, s.Allows turn := by
    simp only [turns, List.forall_mem_cons]
    exact ⟨⟨registered 0, trivial⟩, ⟨registered 1, trivial⟩, trivial, ⟨registered 0, trivial⟩,
      ⟨registered 1, trivial⟩, nofun⟩
  exact ⟨mirrors, allowed, (served_as_at_hand mirrors).2 turns allowed, by decide +kernel⟩

end ServedSystem

end SharedVariables
