import SharedVariables.Proofs.Client.FailStop
import SharedVariables.Proofs.Waiting

/-!
# How values are transferred

A client that reads or assigns a value sends one signal after the other over a connection that can fail at
every point. `Sending` is what became of one of them, and `Client.Talks` a series of them, which ends with
the first that fails (`Client.Talks.ends`). Asking for access is a series of attempts, numbered from 0, of
which all but the last are refused (`Polls`, `Attempts.waitFrom_talks`), and what follows access is a case
for each way in which a signal can fail (`readValue_talks`, `assignValue_talks`). A scripted peer has
received what was written in the series (`Talks.received`), and `transfers_follow_the_protocol` puts this
together.
-/

namespace SharedVariables

/-! ## Series of signals -/

/-- What became of a signal that a client had to send. -/
inductive Sending where
  /-- A request, and the reply to it that was read. -/
  | answered (s reply : Signal)
  /-- A signal that is not answered, and that was written. -/
  | told (s : Signal)
  /-- A request that was written, and to which no reply could be read; the connection has ended. -/
  | unanswered (s : Signal)
  /-- A signal that could not be written; the connection has ended. -/
  | unsent (s : Signal)

namespace Sending

/-- The signal, if it was written. -/
def written? : Sending → Option Signal
  | answered s _ | told s | unanswered s => some s
  | unsent _ => none

/-- Whether the connection failed with the signal `s`. -/
inductive Fails (s : Signal) : Sending → Prop
  | unanswered : Fails s (.unanswered s)
  | unsent : Fails s (.unsent s)

end Sending

namespace Client

variable {σ : Type} [Peer σ]

/-- What becomes of a signal, and what that makes of the client. -/
inductive Sends (c : Client σ) : Sending → Client σ → Prop
  | answered {s reply : Signal} {frame : Bytes} {peer : σ} (encoded : s.frame = .ok frame)
      (written : Peer.receive c.peer frame = .ok peer) (read : c.hears peer = .ok (some reply))
      (due : s.answer? = some reply.kind) : c.Sends (.answered s reply) (c.heard peer)
  | told {s : Signal} {frame : Bytes} {peer : σ} (encoded : s.frame = .ok frame)
      (written : Peer.receive c.peer frame = .ok peer) : c.Sends (.told s) { c with peer }
  | unanswered {s : Signal} {frame : Bytes} {peer : σ} (encoded : s.frame = .ok frame)
      (written : Peer.receive c.peer frame = .ok peer)
      (undue : ∀ reply, c.hears peer = .ok (some reply) → s.answer? ≠ some reply.kind) :
    c.Sends (.unanswered s) (c.heard peer).disconnect
  | unsent {s : Signal}
      (unwritten : ∀ frame peer, s.frame = .ok frame → Peer.receive c.peer frame ≠ .ok peer) :
    c.Sends (.unsent s) c.disconnect

/-- A series of signals over a connection, first to last. -/
inductive Talks : Client σ → List Sending → Client σ → Prop
  | nothing (c : Client σ) : c.Talks [] c
  | next {c c' c'' : Client σ} {t : Sending} {rest : List Sending} (connected : c.connected = true)
      (first : c.Sends t c') (later : c'.Talks rest c'') : c.Talks (t :: rest) c''

variable {c c' c'' : Client σ} {s : Signal} {t : Sending} {talk more : List Sending}

theorem Sends.connected_of_fails (h : c.Sends t c') (fails : t.Fails s) : c'.connected = false := by
  cases fails <;> cases h <;> rfl

theorem Sends.connected_of_answered {reply : Signal} (h : c.Sends (.answered s reply) c') :
    c'.connected = c.connected := by
  cases h
  rfl

theorem Sends.connected_of_told (h : c.Sends (.told s) c') : c'.connected = c.connected := by
  cases h
  rfl

theorem Talks.one (connected : c.connected = true) (h : c.Sends t c') : c.Talks [t] c' :=
  .next connected h (.nothing c')

theorem Talks.append (h : c.Talks talk c') (h' : c'.Talks more c'') :
    c.Talks (talk ++ more) c'' := by
  induction h with
  | nothing c => exact h'
  | next connected first later ih => exact .next connected first (ih h')

theorem Talks.eq_nil (h : c.Talks talk c') (lost : c.connected = false) : talk = [] ∧ c' = c := by
  cases h with
  | nothing => exact ⟨rfl, rfl⟩
  | next connected => rw [lost] at connected; cases connected

/-- Nothing more is sent once the connection has failed. -/
theorem Talks.ends {before after : List Sending} (h : c.Talks (before ++ t :: after) c')
    (fails : t.Fails s) : after = [] ∧ c'.connected = false := by
  generalize whole : before ++ t :: after = talk at h
  induction h generalizing before with
  | nothing c => exact absurd whole (by simp)
  | next connected first later ih =>
    cases before with
    | nil =>
      cases whole
      have lost := first.connected_of_fails fails
      obtain ⟨nil, rfl⟩ := later.eq_nil lost
      exact ⟨nil, lost⟩
    | cons u before =>
      cases whole
      exact ih rfl

/-- A request is answered as is due, or the connection fails with it. -/
theorem request_sends (connected : c.connected = true) (due : s.answer?.isSome = true) :
    (∃ reply, (c.request s).1 = .ok reply ∧ s.answer? = some reply.kind ∧
        c.Sends (.answered s reply) (c.request s).2) ∨
      ∃ e t, (c.request s).1 = .error e ∧ t.Fails s ∧ c.Sends t (c.request s).2 := by
  have asked := request_asked connected due
  generalize c.request s = done at asked ⊢
  obtain ⟨result, c'⟩ := done
  dsimp only at asked ⊢
  cases asked with
  | unencodable unencodable =>
    refine .inr ⟨_, _, rfl, .unsent, .unsent fun frame peer encoded => ?_⟩
    rw [unencodable] at encoded
    cases encoded
  | unwritten encoded unwritten =>
    refine .inr ⟨_, _, rfl, .unsent, .unsent fun frame peer encoded' written => ?_⟩
    cases encoded.symm.trans encoded'
    cases unwritten.symm.trans written
  | closed encoded written closed =>
    refine .inr ⟨_, _, rfl, .unanswered, .unanswered encoded written fun reply read => ?_⟩
    cases closed.symm.trans read
  | unread encoded written unread =>
    refine .inr ⟨_, _, rfl, .unanswered, .unanswered encoded written fun reply read => ?_⟩
    cases unread.symm.trans read
  | mistaken encoded written read expected mistaken =>
    refine .inr ⟨_, _, rfl, .unanswered, .unanswered encoded written fun reply read' => ?_⟩
    cases read.symm.trans read'
    rw [expected]
    exact fun same => mistaken (Option.some.inj same).symm
  | answered encoded written read answered =>
    exact .inl ⟨_, rfl, answered, .answered encoded written read answered⟩

/-- A one-way signal is written, or the connection fails with it. -/
theorem post_sends (connected : c.connected = true) (s : Signal) :
    c.Sends (.told s) (c.post s) ∨ c.Sends (.unsent s) (c.post s) := by
  have told : c.Told s (c.post s) := post_told connected
  generalize c.post s = c' at told ⊢
  cases told with
  | unencodable unencodable =>
    refine .inr (.unsent fun frame peer encoded => ?_)
    rw [unencodable] at encoded
    cases encoded
  | unwritten encoded unwritten =>
    refine .inr (.unsent fun frame peer encoded' written => ?_)
    cases encoded.symm.trans encoded'
    cases unwritten.symm.trans written
  | written encoded written => exact .inl (.told encoded written)

end Client

/-! ## Attempts -/

namespace RetryPolicy

/-- How many refusals it takes at most until time is up, or the clock is not read any more. -/
def patience (policy : RetryPolicy) (clock : List Duration) : Nat :=
  (clock.takeWhile fun elapsed => ¬policy.IsOver elapsed).length + 1

/-- What waiting comes to when access is never granted. -/
def refusal (policy : RetryPolicy) (clock : List Duration) : Option Bool :=
  if clock.any (policy.IsOver ·) then some false else none

variable {policy : RetryPolicy} {elapsed : Duration} {clock : List Duration}

theorem refusal_cases (policy : RetryPolicy) (clock : List Duration) :
    policy.refusal clock = some false ∨ policy.refusal clock = none := by
  rw [refusal]
  split
  · exact .inl rfl
  · exact .inr rfl

theorem refusal_ne_granted : policy.refusal clock ≠ some true := by
  rcases policy.refusal_cases clock with ended | waiting
  · rw [ended]
    decide
  · rw [waiting]
    decide

theorem patience_of_over (ended : policy.IsOver elapsed) : policy.patience (elapsed :: clock) = 1 := by
  rw [patience, List.takeWhile_cons_of_neg (by simpa using ended), List.length_nil]

theorem patience_of_not_over (more : ¬policy.IsOver elapsed) :
    policy.patience (elapsed :: clock) = policy.patience clock + 1 := by
  rw [patience, List.takeWhile_cons_of_pos (by simpa using more), List.length_cons, patience]

theorem refusal_of_over (ended : policy.IsOver elapsed) :
    policy.refusal (elapsed :: clock) = some false := by
  simp only [refusal, List.any_cons, ended, decide_true, Bool.true_or, ↓reduceIte]

theorem refusal_of_not_over (more : ¬policy.IsOver elapsed) :
    policy.refusal (elapsed :: clock) = policy.refusal clock := by
  simp only [refusal, List.any_cons, more, decide_false, Bool.false_or]

end RetryPolicy

/-- What becomes of `n` attempts that are refused, the first of them being number `start`. -/
def refusals (probe : Int32 → Signal) (start n : Nat) : List Sending :=
  (List.range' start n).map fun k => .answered (probe (attemptNumber k)) (.yesNo false)

/-- A series of attempts, the first of them being number `start`; `true` if access is granted. -/
inductive Polls (probe : Int32 → Signal) (start patience : Nat) : List Sending → Bool → Prop
  | granted {n : Nat} (inTime : n < patience) :
    Polls probe start patience
      (refusals probe start n ++ [.answered (probe (attemptNumber (start + n))) (.yesNo true)]) true
  /-- The connection fails. -/
  | failed {n : Nat} {t : Sending} (inTime : n < patience)
      (fails : t.Fails (probe (attemptNumber (start + n)))) :
    Polls probe start patience (refusals probe start n ++ [t]) false
  | exhausted : Polls probe start patience (refusals probe start patience) false

theorem Polls.after_refusal {probe : Int32 → Signal} {start patience : Nat} {talk : List Sending}
    {granted : Bool} (h : Polls probe (start + 1) patience talk granted) :
    Polls probe start (patience + 1)
      (.answered (probe (attemptNumber start)) (.yesNo false) :: talk) granted := by
  have one (n : Nat) : .answered (probe (attemptNumber start)) (.yesNo false) ::
      refusals probe (start + 1) n = refusals probe start (n + 1) := by
    rw [refusals, refusals, List.range'_succ, List.map_cons]
  cases h with
  | granted inTime =>
    rw [← List.cons_append, one, Nat.add_right_comm]
    exact .granted (Nat.succ_lt_succ inTime)
  | failed inTime fails =>
    rw [← List.cons_append, one]
    rw [Nat.add_right_comm] at fails
    exact .failed (Nat.succ_lt_succ inTime) fails
  | exhausted =>
    rw [one]
    exact .exhausted

namespace Client

variable {σ : Type} [Peer σ] {policy : RetryPolicy}

/-- What an attempt is: one signal that is answered with yes or no, or with which the connection fails. It
is nothing without a connection. -/
structure Attempts (attempts : Int32 → Client σ → Bool × Client σ) (probe : Int32 → Signal) :
    Prop where
  sends : ∀ attempt c, c.connected = true →
    c.Sends (.answered (probe attempt) (.yesNo (attempts attempt c).1)) (attempts attempt c).2 ∨
      (attempts attempt c).1 = false ∧
        ∃ t, t.Fails (probe attempt) ∧ c.Sends t (attempts attempt c).2
  lost : ∀ attempt c, c.connected = false → attempts attempt c = (false, c)

variable {attempts : Int32 → Client σ → Bool × Client σ} {probe : Int32 → Signal}

theorem Attempts.waitFrom_of_lost (h : Attempts attempts probe) {attempt : Int32} {c c' : Client σ}
    (refused : attempts attempt c = (false, c')) (lost : c'.connected = false) (clock : List Duration) :
    waitFrom policy attempts clock attempt c = (policy.refusal clock, c') := by
  induction clock generalizing attempt c with
  | nil =>
    rw [waitFrom, refused]
    rfl
  | cons elapsed clock ih =>
    rw [waitFrom, refused]
    dsimp only
    by_cases ended : policy.IsOver elapsed
    · rw [if_pos ended, RetryPolicy.refusal_of_over ended]
    · rw [if_neg ended, RetryPolicy.refusal_of_not_over ended]
      exact ih (h.lost _ c' lost)

/-- What waiting comes to over a connection, if its first attempt is number `start`. -/
def WaitsFor (policy : RetryPolicy) (probe : Int32 → Signal) (clock : List Duration) (start : Nat)
    (c : Client σ) (waited : Option Bool × Client σ) : Prop :=
  ∃ talk granted, Polls probe start (policy.patience clock) talk granted ∧ c.Talks talk waited.2 ∧
    waited.1 = (if granted then some true else policy.refusal clock) ∧
    (granted = true → waited.2.connected = true)

/-- Waiting in vain is a series of attempts that are not granted. -/
theorem WaitsFor.of_refused {clock : List Duration} {start : Nat} {talk : List Sending} {c c' : Client σ}
    (polls : Polls probe start (policy.patience clock) talk false) (talks : c.Talks talk c') :
    WaitsFor policy probe clock start c (policy.refusal clock, c') :=
  ⟨talk, false, polls, talks, rfl, fun granted => absurd granted Bool.false_ne_true⟩

/-- Waiting ends in a refusal, or with access over a connection that goes on. -/
theorem WaitsFor.refused_or_granted {clock : List Duration} {start : Nat} {c : Client σ}
    {waited : Option Bool × Client σ} (h : WaitsFor policy probe clock start c waited) :
    ∃ talk c', c.Talks talk c' ∧
      (waited = (policy.refusal clock, c') ∧ Polls probe start (policy.patience clock) talk false ∨
        waited = (some true, c') ∧ Polls probe start (policy.patience clock) talk true ∧
          c'.connected = true) := by
  obtain ⟨talk, granted, polls, talks, outcome, goesOn⟩ := h
  refine ⟨talk, waited.2, talks, ?_⟩
  cases granted with
  | false => exact .inl ⟨Prod.ext outcome rfl, polls⟩
  | true => exact .inr ⟨Prod.ext outcome rfl, polls, goesOn rfl⟩

/-- The first attempt decides, or else it is refused and the connection goes on. -/
theorem Attempts.first_decides (h : Attempts attempts probe) (clock : List Duration) (start : Nat)
    {c : Client σ} (connected : c.connected = true) :
    WaitsFor policy probe clock start c (waitFrom policy attempts clock (attemptNumber start) c) ∨
      ∃ c', attempts (attemptNumber start) c = (false, c') ∧
        c.Sends (.answered (probe (attemptNumber start)) (.yesNo false)) c' := by
  have sends := h.sends (attemptNumber start) c connected
  cases hd : attempts (attemptNumber start) c with
  | mk yes c' =>
    rw [hd] at sends
    rcases sends with answered | ⟨refused, t, fails, sent⟩
    · cases yes with
      | false => exact .inr ⟨c', rfl, answered⟩
      | true =>
        have granted : waitFrom policy attempts clock (attemptNumber start) c = (some true, c') := by
          cases clock <;> rw [waitFrom, hd]
        rw [granted]
        exact .inl ⟨_, true, .granted (n := 0) (Nat.succ_pos _), .one connected answered, rfl,
          fun _ => answered.connected_of_answered.trans connected⟩
    · cases refused
      rw [h.waitFrom_of_lost hd (sent.connected_of_fails fails) clock]
      exact .inl (.of_refused (.failed (n := 0) (Nat.succ_pos _) fails) (.one connected sent))

/-- Waiting is a series of attempts, of which only the last can be granted. -/
theorem Attempts.waitFrom_talks (h : Attempts attempts probe) (clock : List Duration) (start : Nat)
    {c : Client σ} (connected : c.connected = true) :
    WaitsFor policy probe clock start c (waitFrom policy attempts clock (attemptNumber start) c) := by
  induction clock generalizing start c with
  | nil =>
    rcases h.first_decides [] start connected with decided | ⟨c', refused, sent⟩
    · exact decided
    · rw [waitFrom, refused]
      exact .of_refused .exhausted (.one connected sent)
  | cons elapsed clock ih =>
    rcases h.first_decides (elapsed :: clock) start connected with decided | ⟨c', refused, sent⟩
    · exact decided
    rw [waitFrom, refused]
    by_cases ended : policy.IsOver elapsed
    · simp only [ended, ↓reduceIte]
      rw [← RetryPolicy.refusal_of_over ended]
      refine .of_refused .exhausted ?_
      rw [RetryPolicy.patience_of_over ended]
      exact .one connected sent
    · simp only [ended, ↓reduceIte]
      rw [nextAttempt_attemptNumber]
      obtain ⟨talk, granted, polls, talks, value, goesOn⟩ :=
        ih (start + 1) (sent.connected_of_answered.trans connected)
      refine ⟨_, granted, ?_, .next connected sent talks, ?_, goesOn⟩
      · rw [RetryPolicy.patience_of_not_over ended]
        exact polls.after_refusal
      · rw [RetryPolicy.refusal_of_not_over ended]
        exact value

end Client

/-! ## Reading and assigning -/

namespace Signal

variable {s : Signal}

theorem eq_yesNo (h : s.kind = .yesNo) : ∃ yes, s = .yesNo yes := by
  cases s <;> first | exact ⟨_, rfl⟩ | cases h

theorem eq_valueIs (h : s.kind = .valueIs) :
    ∃ key error loc value, s = .valueIs key error loc value := by
  cases s <;> first | exact ⟨_, _, _, _, rfl⟩ | cases h

theorem eq_svarAssigned (h : s.kind = .svarAssigned) :
    ∃ key error loc, s = .svarAssigned key error loc := by
  cases s <;> first | exact ⟨_, _, _, rfl⟩ | cases h

end Signal

/-- How a value is read: what is sent, and what comes of it. -/
inductive Reads (key : Key) (policy : RetryPolicy) (clock : List Duration) :
    List Sending → Option (Option Bytes) → Prop
  | refused {polling : List Sending}
      (polls : Polls (.mayUse key) 0 (policy.patience clock) polling false) :
    Reads key policy clock polling ((policy.refusal clock).map fun _ => none)
  | unread {polling : List Sending} {t : Sending}
      (polls : Polls (.mayUse key) 0 (policy.patience clock) polling true)
      (fails : t.Fails (.getValue key)) :
    Reads key policy clock (polling ++ [t]) (some none)
  | rejected {polling : List Sending} {named : Key} {error : UInt32} {loc : String} {value : Bytes}
      (polls : Polls (.mayUse key) 0 (policy.patience clock) polling true)
      (rejected : error ≠ Signal.noError) :
    Reads key policy clock
      (polling ++ [.answered (.getValue key) (.valueIs named error loc value)]) (some none)
  /-- The server is told that the value has been used, unless the connection fails with that. -/
  | used {polling : List Sending} {named : Key} {loc : String} {value : Bytes} {t : Sending}
      (polls : Polls (.mayUse key) 0 (policy.patience clock) polling true)
      (after : t = .told (.setState key true "read") ∨ t = .unsent (.setState key true "read")) :
    Reads key policy clock
      (polling ++ [.answered (.getValue key) (.valueIs named Signal.noError loc value), t])
      (some (some value))

/-- How a value is assigned: what is sent, and what comes of it. -/
inductive Assigns (key : Key) (value : Bytes) (policy : RetryPolicy) (clock : List Duration) :
    List Sending → Option Bool → Prop
  | refused {polling : List Sending}
      (polls : Polls (.maySet key) 0 (policy.patience clock) polling false) :
    Assigns key value policy clock polling (policy.refusal clock)
  | untold {polling : List Sending}
      (polls : Polls (.maySet key) 0 (policy.patience clock) polling true) :
    Assigns key value policy clock (polling ++ [.unsent (.setState key false "write")]) (some false)
  | unanswered {polling : List Sending} {t : Sending}
      (polls : Polls (.maySet key) 0 (policy.patience clock) polling true)
      (fails : t.Fails (.assignValue key value)) :
    Assigns key value policy clock
      (polling ++ [.told (.setState key false "write"), t]) (some false)
  | answered {polling : List Sending} {named : Key} {error : UInt32} {loc : String}
      (polls : Polls (.maySet key) 0 (policy.patience clock) polling true) :
    Assigns key value policy clock
      (polling ++ [.told (.setState key false "write"),
        .answered (.assignValue key value) (.svarAssigned named error loc)])
      (some (error == Signal.noError))

namespace Client

variable {σ : Type} [Peer σ] {policy : RetryPolicy} {key : Key} {c : Client σ}

/-- A question has the answer that is found in the reply, or else the connection fails with it. -/
theorem ask_sends {α : Type} {s : Signal} (connected : c.connected = true)
    (due : s.answer?.isSome = true) (neutral : α) (unpack? : Signal → Option α) :
    (∃ reply, s.answer? = some reply.kind ∧
        (c.ask s neutral unpack?).1 = (unpack? reply).getD neutral ∧
        c.Sends (.answered s reply) (c.ask s neutral unpack?).2) ∨
      ∃ t, t.Fails s ∧ (c.ask s neutral unpack?).1 = neutral ∧
        c.Sends t (c.ask s neutral unpack?).2 := by
  rw [ask_eq]
  rcases request_sends connected due with
    ⟨reply, result, kind, sent⟩ | ⟨e, t, result, fails, sent⟩
  · exact .inl ⟨reply, kind, by rw [result], sent⟩
  · exact .inr ⟨t, fails, by rw [result], sent⟩

/-- Questions that are answered with yes or no are attempts. -/
theorem attempts_of_ask {attempts : Int32 → Client σ → Bool × Client σ} {probe : Int32 → Signal}
    {unpack? : Int32 → Signal → Option Bool}
    (asks : ∀ attempt c, attempts attempt c = c.ask (probe attempt) false (unpack? attempt))
    (due : ∀ attempt, (probe attempt).answer? = some .yesNo)
    (unpacks : ∀ attempt yes, unpack? attempt (.yesNo yes) = some yes) : Attempts attempts probe where
  sends attempt c connected := by
    rw [asks]
    rcases c.ask_sends connected (Option.isSome_of_eq_some (due attempt)) false (unpack? attempt) with
      ⟨reply, kind, value, sent⟩ | ⟨t, fails, value, sent⟩
    · rw [due attempt] at kind
      obtain ⟨yes, rfl⟩ := Signal.eq_yesNo (Option.some.inj kind).symm
      rw [value, unpacks]
      exact .inl sent
    · exact .inr ⟨value, t, fails, sent⟩
  lost attempt c lost := by
    rw [asks, ask_eq, request_of_not_connected lost (Option.isSome_of_eq_some (due attempt))]

theorem call_mayUse (c : Client σ) (key : Key) (attempt : Int32) :
    c.call (.mayUse key attempt) =
      c.ask (.mayUse key attempt) false (StoreCall.mayUse key attempt).unpack? := rfl

theorem call_maySet (c : Client σ) (key : Key) (attempt : Int32) :
    c.call (.maySet key attempt) =
      c.ask (.maySet key attempt) false (StoreCall.maySet key attempt).unpack? := rfl

theorem call_setState (c : Client σ) (key : Key) (used : Bool) :
    c.call (.setState key used) =
      ((), c.post (.setState key used (if used then "read" else "write"))) := rfl

theorem waitMayUse_talks (connected : c.connected = true) (key : Key) (policy : RetryPolicy)
    (clock : List Duration) :
    WaitsFor policy (.mayUse key) clock 0 c (c.waitMayUse key policy clock) :=
  (attempts_of_ask (fun attempt c => c.call_mayUse key attempt) (fun _ => rfl)
    fun _ _ => rfl).waitFrom_talks clock 0 connected

theorem waitMaySet_talks (connected : c.connected = true) (key : Key) (policy : RetryPolicy)
    (clock : List Duration) :
    WaitsFor policy (.maySet key) clock 0 c (c.waitMaySet key policy clock) :=
  (attempts_of_ask (fun attempt c => c.call_maySet key attempt) (fun _ => rfl)
    fun _ _ => rfl).waitFrom_talks clock 0 connected

theorem readValue_of_refused {clock : List Duration} {c' : Client σ}
    (refused : c.waitMayUse key policy clock = (policy.refusal clock, c')) :
    c.readValue key policy clock = ((policy.refusal clock).map fun _ => none, c') := by
  rw [readValue, refused]
  rcases policy.refusal_cases clock with ended | waiting
  · rw [ended]
    rfl
  · rw [waiting]
    rfl

theorem assignValue_of_refused {value : Bytes} {clock : List Duration} {c' : Client σ}
    (refused : c.waitMaySet key policy clock = (policy.refusal clock, c')) :
    c.assignValue key value policy clock = (policy.refusal clock, c') := by
  rw [assignValue, refused]
  rcases policy.refusal_cases clock with ended | waiting
  · rw [ended]
  · rw [waiting]

/-- The signals of a client that reads a value. -/
theorem readValue_talks (connected : c.connected = true) (key : Key) (policy : RetryPolicy)
    (clock : List Duration) :
    ∃ talk, Reads key policy clock talk (c.readValue key policy clock).1 ∧
      c.Talks talk (c.readValue key policy clock).2 := by
  obtain ⟨polling, c', polled, ⟨waited, polls⟩ | ⟨waited, polls, goesOn⟩⟩ :=
    (waitMayUse_talks connected key policy clock).refused_or_granted
  · rw [readValue_of_refused waited]
    exact ⟨polling, .refused polls, polled⟩
  · have asked := request_sends goesOn (s := .getValue key) rfl
    rw [readValue, waited]
    dsimp only
    rw [ask]
    generalize c'.request (.getValue key) = done at asked ⊢
    obtain ⟨result, c₁⟩ := done
    rcases asked with ⟨reply, rfl, kind, sent⟩ | ⟨e, t, rfl, fails, sent⟩
    · obtain ⟨named, error, loc, value, rfl⟩ := Signal.eq_valueIs (Option.some.inj kind).symm
      by_cases valid : error = Signal.noError
      · subst valid
        have connected := sent.connected_of_answered.trans goesOn
        simp only [↓reduceIte, Option.getD_some, call_setState]
        rcases post_sends connected (.setState key true "read") with told | unsent
        · exact ⟨_, .used polls (.inl rfl),
            polled.append (.next goesOn sent (.one connected told))⟩
        · exact ⟨_, .used polls (.inr rfl),
            polled.append (.next goesOn sent (.one connected unsent))⟩
      · simp only [valid, ↓reduceIte, Option.getD_none]
        exact ⟨_, .rejected polls valid, polled.append (.one goesOn sent)⟩
    · exact ⟨_, .unread polls fails, polled.append (.one goesOn sent)⟩

/-- The signals of a client that assigns a value. -/
theorem assignValue_talks (connected : c.connected = true) (key : Key) (value : Bytes)
    (policy : RetryPolicy) (clock : List Duration) :
    ∃ talk, Assigns key value policy clock talk (c.assignValue key value policy clock).1 ∧
      c.Talks talk (c.assignValue key value policy clock).2 := by
  obtain ⟨polling, c', polled, ⟨waited, polls⟩ | ⟨waited, polls, goesOn⟩⟩ :=
    (waitMaySet_talks connected key policy clock).refused_or_granted
  · rw [assignValue_of_refused waited]
    exact ⟨polling, .refused polls, polled⟩
  · have written := post_sends goesOn (.setState key false "write")
    rw [assignValue, waited]
    simp only [call_setState, Bool.false_eq_true, ↓reduceIte]
    generalize c'.post (.setState key false "write") = c₁ at written ⊢
    rcases written with told | unsent
    · have connected := told.connected_of_told.trans goesOn
      have asked := request_sends connected (s := .assignValue key value) rfl
      rw [ask]
      generalize c₁.request (.assignValue key value) = done at asked ⊢
      obtain ⟨result, c₂⟩ := done
      rcases asked with ⟨reply, rfl, kind, sent⟩ | ⟨e, t, rfl, fails, sent⟩
      · obtain ⟨named, error, loc, rfl⟩ := Signal.eq_svarAssigned (Option.some.inj kind).symm
        exact ⟨_, .answered polls, polled.append (.next goesOn told (.one connected sent))⟩
      · exact ⟨_, .unanswered polls fails,
          polled.append (.next goesOn told (.one connected sent))⟩
    · have lost := unsent.connected_of_fails .unsent
      rw [ask_eq, request_of_not_connected lost rfl]
      exact ⟨_, .untold polls, polled.append (.one goesOn unsent)⟩

end Client

/-! ## What the peer receives -/

/-- The signals of a series that were written, first to last. -/
def Sending.written (talk : List Sending) : List Signal := talk.filterMap written?

namespace Client

variable {c c' : Client Script} {t : Sending} {talk : List Sending}

/-- A peer takes a frame just if it is there, and keeps it. -/
theorem receive_eq_ok_iff {peer peer' : Script} {frame : Bytes} :
    Peer.receive peer frame = .ok peer' ↔
      peer.gone = false ∧ peer' = { peer with received := frame :: peer.received } := by
  have takes : Peer.receive peer frame = if peer.gone then Except.error Fault.brokenPipe
      else .ok { peer with received := frame :: peer.received } := rfl
  rw [takes]
  cases peer.gone <;> simp [eq_comm]

theorem received_of_receive {peer peer' : Script} {s : Signal} {frame : Bytes}
    (encoded : s.frame = .ok frame) (taken : Peer.receive peer frame = .ok peer') :
    peer'.received.map Except.ok = s.frame :: peer.received.map Except.ok := by
  obtain ⟨-, rfl⟩ := receive_eq_ok_iff.1 taken
  rw [encoded]
  rfl

/-- One more frame is received for a signal that was written. -/
theorem Sends.received (h : c.Sends t c') :
    c'.peer.received.map Except.ok =
      t.written?.toList.map Signal.frame ++ c.peer.received.map Except.ok := by
  cases h with
  | answered encoded taken => exact (received_of_receive encoded taken :)
  | told encoded taken => exact (received_of_receive encoded taken :)
  | unanswered encoded taken => exact (received_of_receive encoded taken :)
  | unsent => rfl

/-- A scripted peer has received, last first, the frames of what was written. -/
theorem Talks.received (h : c.Talks talk c') :
    c'.peer.received.map Except.ok =
      ((Sending.written talk).map Signal.frame).reverse ++ c.peer.received.map Except.ok := by
  induction h with
  | nothing c => rfl
  | next connected first later ih =>
    rename_i t rest
    rw [ih, first.received]
    simp only [Sending.written, List.filterMap_cons]
    cases t.written? with
    | none => rfl
    | some s =>
      simp only [Option.toList_some, List.map_cons, List.map_nil, List.reverse_cons,
        List.append_assoc, List.cons_append, List.nil_append]

/-- Values are transferred as the protocol says, whatever the peer's script and however long the client
waits. A client that reads a value sends its attempts to use it until one is granted; then it asks for the
value; and then, just if the value has come without an error, it says that it has used it. A client that
assigns a value sends its attempts to set it until one is granted; then it says that it sets it; and then it
sends the value, which counts as taken just if the reply has no error. If the connection fails, nothing
more is sent; without a connection, nothing at all. -/
theorem transfers_follow_the_protocol (c : Client Script) (key : Key) (value : Bytes)
    (policy : RetryPolicy) (clock : List Duration) :
    let read := c.readValue key policy clock
    let assigned := c.assignValue key value policy clock
    (c.connected = true →
      (∃ talk, Reads key policy clock talk read.1 ∧ c.Talks talk read.2 ∧
        read.2.peer.received.map Except.ok =
          ((Sending.written talk).map Signal.frame).reverse ++ c.peer.received.map Except.ok) ∧
      ∃ talk, Assigns key value policy clock talk assigned.1 ∧ c.Talks talk assigned.2 ∧
        assigned.2.peer.received.map Except.ok =
          ((Sending.written talk).map Signal.frame).reverse ++ c.peer.received.map Except.ok) ∧
      (∀ before t s after c', c.Talks (before ++ t :: after) c' → t.Fails s →
        after = [] ∧ c'.connected = false) ∧
      (c.connected = false →
        read = ((policy.refusal clock).map fun _ => none, c) ∧
          assigned = (policy.refusal clock, c)) := by
  intro read assigned
  refine ⟨fun connected => ⟨?_, ?_⟩, fun before t s after c' talks fails => talks.ends fails,
    fun lost => ⟨?_, ?_⟩⟩
  · obtain ⟨talk, reads, talks⟩ := c.readValue_talks connected key policy clock
    exact ⟨talk, reads, talks, talks.received⟩
  · obtain ⟨talk, assigns, talks⟩ := c.assignValue_talks connected key value policy clock
    exact ⟨talk, assigns, talks, talks.received⟩
  · have unmade : read = (if clock.any (policy.IsOver ·) then some none else none, c) :=
      make_of_not_connected lost (.readValue key policy clock)
    rw [unmade, RetryPolicy.refusal]
    split <;> rfl
  · exact make_of_not_connected lost (.assignValue key value policy clock)

/-- A peer that refuses the first attempt and grants the second. -/
example :
    let config : ClientConfig := ⟨.unixPath "/run/svars", .ofSeconds 5, "apl"⟩
    let frame (s : Signal) : Bytes := s.frame.toOption.getD []
    let peer := ((Script.silent.queue (frame (.yesNo false))).queue (frame (.yesNo true))).queue
      (frame (.valueIs .none Signal.noError "" [7]))
    let c := Client.connect config (.ofProcess (.single 1001) 10 5001) peer true
    let done := c.readValue .none .default [⟨0⟩]
    done.1 = some (some [7]) ∧ done.2.connected = true ∧ done.2.peer.received.reverse =
      [frame (.mayUse .none 0), frame (.mayUse .none 1), frame (.getValue .none),
        frame (.setState .none true "read")] := by
  decide +kernel

end Client

end SharedVariables
