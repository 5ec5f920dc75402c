import SharedVariables.Proofs.Client.Dialogue

/-!
# Peers that are alike

A client knows its peer by what it can read and write. So if a peer does the same as another one that it
is taken for (`Peer.IsLike`), a client cannot tell them apart: its calls come to the same
(`Client.results_taking`), and leave the same of the client (`Client.after_taking`).
-/

namespace SharedVariables

/-- Whether every peer does what the one does that it is taken for. -/
structure Peer.IsLike {σ τ : Type} [Peer σ] [Peer τ] (f : σ → τ) : Prop where
  receive : ∀ peer bs, Peer.receive (f peer) bs = (Peer.receive peer bs).map f
  inbound : ∀ peer, Peer.inbound (f peer) = Peer.inbound peer
  withInbound : ∀ peer source, Peer.withInbound (f peer) source = f (Peer.withInbound peer source)
  hangUp : ∀ peer, Peer.hangUp (f peer) = f (Peer.hangUp peer)

namespace Client

variable {σ τ : Type} {f : σ → τ}

/-- The client with its peer taken for another one. -/
def taking (f : σ → τ) (c : Client σ) : Client τ := ⟨c.config, c.me, c.connected, c.buffer, f c.peer⟩

theorem connected_taking (c : Client σ) : (c.taking f).connected = c.connected := rfl

variable [Peer σ] [Peer τ]

theorem disconnect_taking (like : Peer.IsLike f) (c : Client σ) :
    (c.taking f).disconnect = c.disconnect.taking f := by
  simp only [disconnect, taking, like.hangUp]

theorem writeSignal_taking (like : Peer.IsLike f) (c : Client σ) (s : Signal) :
    (c.taking f).writeSignal s = (c.writeSignal s).map (taking f) := by
  rw [writeSignal, writeSignal]
  cases s.frame with
  | error e => rfl
  | ok frame =>
    dsimp only [taking]
    rw [like.receive]
    cases Peer.receive c.peer frame <;> rfl

theorem readSignal_taking (like : Peer.IsLike f) (c : Client σ) :
    (c.taking f).readSignal = c.readSignal.map id (taking f) := by
  simp only [readSignal, taking, like.inbound, like.withInbound]
  split <;> rfl

theorem exchange_taking (like : Peer.IsLike f) (c : Client σ) (s : Signal) (expected : SignalKind) :
    (c.taking f).exchange s expected = (c.exchange s expected).map id (taking f) := by
  rw [exchange, exchange, writeSignal_taking like]
  cases c.writeSignal s with
  | error e => rfl
  | ok c =>
    simp only [Except.map, readSignal_taking like]
    obtain ⟨result, c⟩ := c.readSignal
    cases result with
    | error e => rfl
    | ok reply =>
      by_cases same : reply.kind = expected
      · simp only [Prod.map, id, same, ↓reduceIte]
      · simp only [Prod.map, id, same, ↓reduceIte]

theorem request_taking (like : Peer.IsLike f) (c : Client σ) (s : Signal) :
    (c.taking f).request s = (c.request s).map id (taking f) := by
  rw [request, request]
  cases s.answer? with
  | none => rfl
  | some expected =>
    dsimp only
    rw [connected_taking]
    by_cases connected : c.connected = true
    · rw [if_pos connected, if_pos connected, exchange_taking like]
      obtain ⟨result, c⟩ := c.exchange s expected
      cases result with
      | error e => exact congrArg (_, ·) (disconnect_taking like c)
      | ok reply => rfl
    · rw [if_neg connected, if_neg connected]
      rfl

theorem post_taking (like : Peer.IsLike f) (c : Client σ) (s : Signal) :
    (c.taking f).post s = (c.post s).taking f := by
  rw [post, post, send, send, connected_taking]
  by_cases connected : c.connected = true
  · rw [if_pos connected, if_pos connected, writeSignal_taking like]
    cases c.writeSignal s with
    | error e => exact disconnect_taking like c
    | ok c => rfl
  · rw [if_neg connected, if_neg connected]

theorem close_taking (like : Peer.IsLike f) (c : Client σ) :
    (c.taking f).close = c.close.taking f := by
  rw [close, close, connected_taking]
  by_cases connected : c.connected = true
  · have received : Peer.receive (c.taking f).peer closeFrame = _ := like.receive c.peer closeFrame
    rw [if_pos connected, if_pos connected, received]
    cases Peer.receive c.peer closeFrame with
    | error fault => exact disconnect_taking like c
    | ok peer => exact disconnect_taking like { c with peer }
  · rw [if_neg connected, if_neg connected]

end Client

namespace Dialogue

variable {α σ τ : Type} [Peer σ] [Peer τ] {f : σ → τ}

theorem run_taking (like : Peer.IsLike f) (d : Dialogue α) (c : Client σ) :
    d.run (c.taking f) = (d.run c).map id (.taking f) ∧ d.results (c.taking f) = d.results c := by
  induction d generalizing c with
  | settled value => exact ⟨rfl, rfl⟩
  | ask s due next ih =>
    rw [run, run, results, results, Client.request_taking like]
    obtain ⟨ran, results⟩ := ih (c.request s).1.toOption (c.request s).2
    exact ⟨ran, congrArg ((c.request s).1 :: ·) results⟩
  | tell s oneWay next ih =>
    rw [run, run, results, results, Client.post_taking like]
    exact ih (c.post s)
  | leave next ih =>
    rw [run, run, results, results, Client.close_taking like]
    exact ih c.close

end Dialogue

namespace Client

variable {σ τ : Type} [Peer σ] [Peer τ] {f : σ → τ}

theorem make_taking (like : Peer.IsLike f) (c : Client σ) (call : ClientCall) :
    (c.taking f).make call = (c.make call).map id (taking f) := by
  rw [make_eq_run, make_eq_run]
  exact (Dialogue.run_taking like _ c).1

theorem after_taking (like : Peer.IsLike f) (c : Client σ) (calls : List ClientCall) :
    (c.taking f).after calls = (c.after calls).taking f := by
  induction calls generalizing c with
  | nil => rfl
  | cons call calls ih =>
    have next : ((c.taking f).make call).2 = (c.make call).2.taking f := by
      rw [make_taking like]
      rfl
    rw [after, List.foldl_cons, next]
    exact ih (c.make call).2

theorem results_taking (like : Peer.IsLike f) (c : Client σ) (calls : List ClientCall) :
    (c.taking f).results calls = c.results calls := by
  induction calls generalizing c with
  | nil => rfl
  | cons call calls ih =>
    have next : ((c.taking f).make call).2 = (c.make call).2.taking f := by
      rw [make_taking like]
      rfl
    rw [results, results, next, ih]
    exact congrArg (· ++ _) (Dialogue.run_taking like _ c).2

end Client

end SharedVariables
