import SharedVariables.Proofs.Client.Equivalence
import SharedVariables.Proofs.Client.Transfer
import SharedVariables.Proofs.Server.Dispatch

/-!
# Values that are too long

A value of more than 65535 bytes has no frame. A client finds that out only after it has been granted access
and has said that it sets the variable, and then it gives its connection up, as after anything else that
cannot be sent (`assignValue_of_unencodable`). So the assignment fails, but it is not undone; and if the
client is registered at a server, the server takes leave of it (`IsBound.assignValue_of_long`).
-/

namespace SharedVariables

theorem Signal.frame_assignValue_of_long (key : Key) {value : Bytes} (long : 65535 < value.length) :
    ∃ e, (Signal.assignValue key value).frame = .error e := by
  cases hf : (Signal.assignValue key value).frame with
  | error e => exact ⟨e, rfl⟩
  | ok frame => exact absurd ((Signal.frame_fits _).1 ⟨frame, hf⟩) (Nat.not_le.2 long)

namespace Client

section Peer

variable {σ : Type} [Peer σ] {c c' : Client σ} {key : Key} {value : Bytes} {policy : RetryPolicy}
  {clock : List Duration}

/-- A question that cannot be encoded ends the connection, and has its neutral value. -/
theorem ask_of_unencodable {α : Type} {s : Signal} {e : SignalError} (connected : c.connected = true)
    (due : s.answer?.isSome = true) (unencodable : s.frame = .error e) (neutral : α)
    (unpack? : Signal → Option α) : c.ask s neutral unpack? = (neutral, c.disconnect) := by
  rw [ask_eq]
  have asked := request_asked connected due
  generalize c.request s = done at asked ⊢
  obtain ⟨result, c'⟩ := done
  cases asked with
  | unencodable => rfl
  | unwritten encoded => cases unencodable.symm.trans encoded
  | closed encoded => cases unencodable.symm.trans encoded
  | unread encoded => cases unencodable.symm.trans encoded
  | mistaken encoded => cases unencodable.symm.trans encoded
  | answered encoded => cases unencodable.symm.trans encoded

/-- The client has said that it sets the variable when it finds that it cannot send the value. -/
theorem assignValue_of_unencodable (granted : c.waitMaySet key policy clock = (some true, c'))
    (told : (c'.post (.setState key false "write")).connected = true) {e : SignalError}
    (unencodable : (Signal.assignValue key value).frame = .error e) :
    c.assignValue key value policy clock =
      (some false, (c'.post (.setState key false "write")).disconnect) := by
  rw [assignValue, granted]
  dsimp only
  rw [call_setState, if_neg Bool.false_ne_true, ask_of_unencodable told rfl unencodable]

end Peer

/-! ## A scripted peer -/

section Script

variable {c c' : Client Script} {t : Sending} {talk : List Sending} {s reply : Signal} {key : Key}
  {value : Bytes} {policy : RetryPolicy} {clock : List Duration}

/-- A peer whose reply has been read is there. -/
theorem Sends.not_gone (h : c.Sends (.answered s reply) c') : c'.peer.gone = false := by
  cases h with
  | answered encoded taken =>
    obtain ⟨there, rfl⟩ := receive_eq_ok_iff.1 taken
    exact there

theorem Talks.last (h : c.Talks (talk ++ [t]) c') : ∃ c₁ : Client Script, c₁.Sends t c' := by
  generalize whole : talk ++ [t] = all at h
  induction h generalizing talk with
  | nothing c => exact absurd whole (by simp)
  | next connected first later ih =>
    cases talk with
    | cons u talk =>
      cases whole
      exact ih rfl
    | nil =>
      cases whole
      cases later
      exact ⟨_, first⟩

/-- As long as the peer is there, what fits is written. -/
theorem post_told_of_not_gone (connected : c.connected = true) (there : c.peer.gone = false)
    (fits : s.Fits) : c.Sends (.told s) (c.post s) := by
  rcases post_sends connected s with told | unsent
  · exact told
  · generalize c.post s = c' at unsent
    cases unsent with
    | unsent unwritten =>
      obtain ⟨frame, encoded⟩ := s.frame_fits.2 fits
      exact absurd (receive_eq_ok_iff.2 ⟨there, rfl⟩) (unwritten frame _ encoded)

/-- The one frame that follows the attempts says that the variable is being set. -/
theorem assignValue_of_long (connected : c.connected = true)
    (granted : c.waitMaySet key policy clock = (some true, c')) (long : 65535 < value.length) :
    (∃ polling, Polls (.maySet key) 0 (policy.patience clock) polling true ∧ c.Talks polling c') ∧
      c'.Sends (.told (.setState key false "write")) (c'.post (.setState key false "write")) ∧
      c.assignValue key value policy clock =
        (some false, (c'.post (.setState key false "write")).disconnect) := by
  obtain ⟨polling, c₁, polled, ⟨waited, -⟩ | ⟨waited, polls, goesOn⟩⟩ :=
    (waitMaySet_talks connected key policy clock).refused_or_granted
  · exact absurd (Prod.mk.inj (waited.symm.trans granted)).1 RetryPolicy.refusal_ne_granted
  · cases waited.symm.trans granted
    have there : c'.peer.gone = false := by
      cases polls with
      | granted inTime =>
        obtain ⟨c₁, last⟩ := polled.last
        exact last.not_gone
    have told : c'.Sends (.told (.setState key false "write")) (c'.post (.setState key false "write")) :=
      post_told_of_not_gone goesOn there (by show String.utf8ByteSize _ ≤ 65535; decide)
    obtain ⟨e, unencodable⟩ := Signal.frame_assignValue_of_long key long
    exact ⟨⟨polling, polls, polled⟩, told,
      assignValue_of_unencodable granted (told.connected_of_told.trans goesOn) unencodable⟩

end Script

/-! ## A server -/

section Server

/-- A client whose connection is at rest, and whose session acts for its processor. -/
structure IsBound (c : Client Link) : Prop where
  atRest : c.AtRest
  session : c.peer.service.session = ⟨some c.me.bare⟩

namespace IsBound

variable {c : Client Link}

/-- A call comes to what the registry does for the processor. -/
theorem call (h : c.IsBound) (call : StoreCall) (plain : call.IsPlain)
    (fits : (call.signal c.me c.config.progname).Fits) :
    let outcome := c.peer.service.server.registry.answer c.me.bare call
    ∃ c', c.call call = (outcome.value, c') ∧ c'.IsBound ∧ c'.me = c.me ∧
      c'.peer.service.server.registry = outcome.registry ∧
      c'.peer.service.notices = c.peer.service.notices ++ outcome.notices := by
  intro outcome
  have hd := Session.dispatch_of_bound c.me c.peer.service.server c.config.progname plain
  have ha := Session.Answers.of_bound c.me c.peer.service.server call
  rw [← h.session] at hd ha
  obtain ⟨c', called, served⟩ := call_atRest h.atRest fits hd ha
  refine ⟨c', called, ⟨served.atRest, ?_⟩, served.me, ?_, served.notices⟩
  · rw [served.session, served.me]
    exact h.session
  · rw [served.server]
    rfl

theorem waitMaySet (h : c.IsBound) (key : Key) (policy : RetryPolicy) (clock : List Duration) :
    (c.waitMaySet key policy clock).2.IsBound ∧ (c.waitMaySet key policy clock).2.me = c.me := by
  refine waitFrom_keeps (P := fun c' : Client Link => c'.IsBound ∧ c'.me = c.me)
    (fun attempt c₁ h₁ => ?_) clock 0 ⟨h, rfl⟩
  obtain ⟨c₂, called, bound, same, -⟩ := h₁.1.call (.maySet key attempt) trivial trivial
  rw [called]
  exact ⟨bound, same.trans h₁.2⟩

/-- When the connection is given up, the session takes leave of its processor. -/
theorem disconnect (h : c.IsBound) :
    let left := c.peer.service.server.registry.leave c.me.id
    c.disconnect.peer.service.server.registry = left.registry ∧
      c.disconnect.peer.service.notices = c.peer.service.notices ++ left.notices := by
  intro left
  have ended : c.disconnect.peer = { c.peer with
      service := c.peer.service.finish
      isOpen := false
      outbound := { c.peer.outbound with ending := none } } := if_pos h.atRest.link.isOpen
  have me : c.peer.service.session.me = some c.me.bare := by rw [h.session]
  rw [ended]
  dsimp only [Service.finish, Service.after]
  rw [Session.finish_of_bound me]
  exact ⟨rfl, rfl⟩

/-- The server takes leave of a processor that was granted access for a value that cannot be sent. -/
theorem assignValue_of_long (h : c.IsBound) {key : Key} {value : Bytes} {policy : RetryPolicy}
    {clock : List Duration} {polled : Client Link}
    (granted : c.waitMaySet key policy clock = (some true, polled)) (long : 65535 < value.length) :
    let wrote := polled.peer.service.server.registry.setState key c.me.id false
    let left := wrote.registry.leave c.me.id
    ∃ c', c.assignValue key value policy clock = (some false, c') ∧ c'.connected = false ∧
      c'.peer.service.server.registry = left.registry ∧
      c'.peer.service.notices = polled.peer.service.notices ++ wrote.notices ++ left.notices := by
  intro wrote left
  obtain ⟨bound, me⟩ := h.waitMaySet key policy clock
  rw [granted] at bound me
  obtain ⟨c₁, called, bound₁, me₁, registry, notices⟩ := bound.call (.setState key false)
    trivial (StoreCall.fits_signal _ _ nofun)
  have posted : polled.post (.setState key false "write") = c₁ := congrArg Prod.snd called
  obtain ⟨e, unencodable⟩ := Signal.frame_assignValue_of_long key long
  have assigned := assignValue_of_unencodable granted
    (by rw [posted]; exact bound₁.atRest.connected) unencodable
  rw [posted] at assigned
  obtain ⟨registry', notices'⟩ := bound₁.disconnect
  rw [registry, me₁] at registry' notices'
  rw [notices] at notices'
  rw [me] at registry' notices'
  exact ⟨_, assigned, rfl, registry', notices'⟩

end IsBound

theorem IsRegistered.isBound {c : Client Link} (h : c.IsRegistered) (server : Server) :
    (c.facing server).IsBound := by
  cases h.standing with
  | bound rest session fits => exact ⟨rest.facing server, session⟩

end Server

/-! ## What a long value costs -/

/-- A value that is too long is refused, and costs the connection. Once access is granted, whatever the
peer's script, the client says that it sets the variable and sends nothing of the value; the assignment
fails, and every later call has its neutral value and does nothing. A server that a registered client says
so to counts the variable as written by its processor, and then takes leave of it: all that the processor
shares is retracted, and its registration is removed. -/
theorem long_values_cost_the_connection (key : Key) {value : Bytes} (long : 65535 < value.length)
    (policy : RetryPolicy) (clock : List Duration) :
    (∀ c : Client Script, c.connected = true → (c.waitMaySet key policy clock).1 = some true →
      let polled := (c.waitMaySet key policy clock).2
      let assigned := c.assignValue key value policy clock
      (∃ polling, Polls (.maySet key) 0 (policy.patience clock) polling true ∧
          c.Talks polling polled) ∧
        assigned.1 = some false ∧
        assigned.2.peer.received.map Except.ok =
          (Signal.setState key false "write").frame :: polled.peer.received.map Except.ok ∧
        assigned.2.connected = false ∧
        ∀ call more, assigned.2.make call = (call.neutral, assigned.2) ∧
          assigned.2.after more = assigned.2) ∧
      ∀ (c : Client Link) (server : Server), c.IsRegistered →
        let polled := c.actOn server fun c => c.waitMaySet key policy clock
        let assigned := c.actOn server fun c => c.assignValue key value policy clock
        polled.value = some true →
          let wrote := polled.server.registry.setState key c.me.id false
          let left := wrote.registry.leave c.me.id
          assigned.value = some false ∧ assigned.client.connected = false ∧
            assigned.server.registry = left.registry ∧
            assigned.notices = polled.notices ++ wrote.notices ++ left.notices := by
  constructor
  · intro c connected granted polled assigned
    obtain ⟨polling, told, done⟩ :=
      assignValue_of_long connected (Prod.ext granted rfl : _ = (some true, polled)) long
    have assigned_eq : assigned = _ := done
    rw [assigned_eq]
    refine ⟨polling, rfl, told.received, rfl, fun call more => ⟨?_, ?_⟩⟩
    · exact make_of_not_connected rfl call
    · exact after_of_not_connected rfl more
  · intro c server registered polled assigned granted wrote left
    obtain ⟨c', done, lost, registry, notices⟩ := (registered.isBound server).assignValue_of_long
      (Prod.ext granted rfl : _ = (some true, polled.client)) long
    have assigned_eq : assigned = ⟨some false, c', c'.peer.service.server, c'.peer.service.notices⟩ := by
      refine (actOn_eq c server fun c => c.assignValue key value policy clock).trans ?_
      rw [done]
    rw [assigned_eq]
    exact ⟨rfl, lost, registry, notices⟩

theorem long_values_cost_the_connection_of_two :
    let config : ClientConfig := ⟨.unixPath "/run/svars", .ofSeconds 5, "apl"⟩
    let p := Partner.ofProcess (.single 1001) 10 5001
    let q := Partner.ofProcess (.single 1002) 20 5002
    let name := Name.ofText "LEVEL"
    let value : Bytes := .replicate 65536 0
    let registered := (connect config p (.ofServer .empty) true).actOn .empty
      fun c => c.call .register
    let server := registered.server.withRegistry (registered.server.registry.run
      [.matchOrMake name q.id p, .matchOrMake name p.id q])
    let key := Key.compose 10 1001 1
    65535 < value.length ∧ registered.client.IsRegistered ∧
      (registered.client.actOn server fun c => c.waitMaySet key .default []).value = some true ∧
      (registered.client.actOn server fun c => c.assignValue key value .default []).value =
        some false ∧
      (registered.client.actOn server fun c => c.assignValue key value .default []).client.connected =
        false ∧
      (registered.client.actOn server fun c =>
        c.assignValue key value .default []).server.registry.isRegistered p.id = false := by
  intro config p q name value registered server key
  have long : 65535 < value.length := by
    rw [List.length_replicate]
    decide
  have client : registered.client.IsRegistered :=
    .registered (.connect config p .empty true) .empty (by decide +kernel)
  have granted : (registered.client.actOn server fun c =>
      c.waitMaySet key .default []).value = some true := by decide +kernel
  obtain ⟨failed, lost, registry, -⟩ :=
    (long_values_cost_the_connection key long .default []).2 registered.client server client granted
  refine ⟨long, client, granted, failed, lost, ?_⟩
  rw [registry]
  decide +kernel

/-- A refused assignment of a value that is too long has sent something after its attempts, and has left
the client without its connection. -/
theorem long_value_is_not_refused_cleanly :
    let config : ClientConfig := ⟨.unixPath "/run/svars", .ofSeconds 5, "apl"⟩
    let peer := Script.silent.queue ((Signal.yesNo true).frame.toOption.getD [])
    let c := connect config (.ofProcess (.single 1001) 10 5001) peer true
    let value : Bytes := .replicate 65536 0
    let polled := c.waitMaySet .none .default []
    let assigned := c.assignValue .none value .default []
    c.connected = true ∧ 65535 < value.length ∧ polled.1 = some true ∧ assigned.1 = some false ∧
      assigned.2.peer.received.map Except.ok =
        (Signal.setState .none false "write").frame :: polled.2.peer.received.map Except.ok ∧
      polled.2.connected = true ∧ assigned.2.connected = false := by
  intro config peer c value polled assigned
  have long : 65535 < value.length := by
    rw [List.length_replicate]
    decide
  have granted : polled.1 = some true := by decide +kernel
  obtain ⟨-, told, done⟩ :=
    assignValue_of_long (c := c) rfl (Prod.ext granted rfl : _ = (some true, polled.2)) long
  have assigned_eq : assigned = _ := done
  rw [assigned_eq]
  exact ⟨rfl, long, granted, rfl, told.received, by decide +kernel, rfl⟩

end Client

end SharedVariables
