import SharedVariables.Client.Store
import SharedVariables.Proofs.Server.Replies

/-!
# What a client does for its calls

Whatever is asked of a client (`ClientCall`), it does nothing but send requests, which are answered, send
one-way signals, and say good-bye. A call is a `Dialogue`, in which the answer to a request decides how to
go on, and `Client.make_eq_run` says that a client that makes the call holds it, whatever peer is at the
other end. So what requests, one-way signals and good-byes keep is kept by every call, and by any number
of them (`Dialogue.run_of_sends`, `Client.after_of_sends`).
-/

namespace SharedVariables

/-! ## Calls -/

/-- What can be asked of a client. -/
inductive ClientCall where
  /-- A call that any registry answers. -/
  | store (call : StoreCall)
  | readRecord (key : Key)
  | assignValue (key : Key) (value : Bytes) (policy : RetryPolicy) (clock : List Duration)
  | readValue (key : Key) (policy : RetryPolicy) (clock : List Duration)
  | assignExchanged (key : Key) (value : Bytes)
  | readExchanged (key : Key)
  | close

namespace ClientCall

/-- What the answer to a call is. -/
abbrev Answer : ClientCall → Type
  | store call => call.Answer
  | readRecord _ => Option Row
  | assignValue _ _ _ _ => Option Bool
  | readValue _ _ _ => Option (Option Bytes)
  | assignExchanged _ _ => Unit
  | readExchanged _ => Bytes
  | close => Unit

/-- The answer to a call without a connection. One that waits is refused when time is up. -/
def neutral : (call : ClientCall) → call.Answer
  | store call => call.neutral
  | readRecord _ => none
  | assignValue _ _ policy clock => if clock.any (policy.IsOver ·) then some false else none
  | readValue _ policy clock => if clock.any (policy.IsOver ·) then some none else none
  | assignExchanged _ _ => ()
  | readExchanged _ => []
  | close => ()

end ClientCall

namespace Client

variable {σ : Type} [Peer σ]

/-- Makes a call. -/
def make (c : Client σ) : (call : ClientCall) → call.Answer × Client σ
  | .store call => c.call call
  | .readRecord key => c.readRecord key
  | .assignValue key value policy clock => c.assignValue key value policy clock
  | .readValue key policy clock => c.readValue key policy clock
  | .assignExchanged key value => ((), c.assignExchanged key value)
  | .readExchanged key => c.readExchanged key
  | .close => ((), c.close)

/-- The client after a list of calls, made first to last. -/
def after (c : Client σ) (calls : List ClientCall) : Client σ :=
  calls.foldl (fun c call => (c.make call).2) c

end Client

/-! ## Dialogues -/

/-- What one side of a connection says, where the answer to a request, if there is one, decides how to go
on. -/
inductive Dialogue (α : Type) where
  | settled (value : α)
  | ask (s : Signal) (due : s.answer?.isSome = true) (next : Option Signal → Dialogue α)
  | tell (s : Signal) (oneWay : s.IsOneWay) (next : Dialogue α)
  /-- Says good-bye. -/
  | leave (next : Dialogue α)

namespace Dialogue

variable {α β : Type} {σ : Type} [Peer σ]

/-- Holds a dialogue. -/
def run : Dialogue α → Client σ → α × Client σ
  | settled value, c => (value, c)
  | ask s _ next, c => (next (c.request s).1.toOption).run (c.request s).2
  | tell s _ next, c => next.run (c.post s)
  | leave next, c => next.run c.close

/-- What the requests in a dialogue come to, first to last. -/
def results : Dialogue α → Client σ → List (Except SignalError Signal)
  | settled _, _ => []
  | ask s _ next, c => (c.request s).1 :: (next (c.request s).1.toOption).results (c.request s).2
  | tell s _ next, c => next.results (c.post s)
  | leave next, c => next.results c.close

/-- Goes on with what a dialogue has come to. -/
def bind : Dialogue α → (α → Dialogue β) → Dialogue β
  | settled value, f => f value
  | ask s due next, f => .ask s due fun reply? => (next reply?).bind f
  | tell s oneWay next, f => .tell s oneWay (next.bind f)
  | leave next, f => .leave (next.bind f)

theorem run_bind (d : Dialogue α) (f : α → Dialogue β) (c : Client σ) :
    (d.bind f).run c = (f (d.run c).1).run (d.run c).2 := by
  induction d generalizing c with
  | settled value => rfl
  | ask s due next ih => exact ih _ _
  | tell s oneWay next ih => exact ih _
  | leave next ih => exact ih _

/-- Whether all signals of a dialogue are of the sort `sent`, whatever the answers; `leaves` tells whether
it may say good-bye. -/
def Sends (sent : Signal → Prop) (leaves : Prop) : Dialogue α → Prop
  | settled _ => True
  | ask s _ next => sent s ∧ ∀ reply?, (next reply?).Sends sent leaves
  | tell s _ next => sent s ∧ next.Sends sent leaves
  | leave next => leaves ∧ next.Sends sent leaves

theorem Sends.bind {sent : Signal → Prop} {leaves : Prop} {d : Dialogue α} {f : α → Dialogue β}
    (h : d.Sends sent leaves) (hf : ∀ value, (f value).Sends sent leaves) :
    (d.bind f).Sends sent leaves := by
  induction d with
  | settled value => exact hf value
  | ask s due next ih => exact ⟨h.1, fun reply? => ih reply? (h.2 reply?)⟩
  | tell s oneWay next ih => exact ⟨h.1, ih h.2⟩
  | leave next ih => exact ⟨h.1, ih h.2⟩

theorem sends_any (d : Dialogue α) : d.Sends (fun _ => True) True := by
  induction d with
  | settled value => trivial
  | ask s due next ih => exact ⟨trivial, ih⟩
  | tell s oneWay next ih => exact ⟨trivial, ih⟩
  | leave next ih => exact ⟨trivial, ih⟩

/-- What requests, one-way signals and good-byes keep is kept by a dialogue, and what requests come to as
long as it is kept is what those of the dialogue come to. -/
theorem run_of_sends {P : Client σ → Prop} {Q : Except SignalError Signal → Prop}
    {sent : Signal → Prop} {leaves : Prop}
    (request : ∀ c s, s.answer?.isSome = true → sent s → P c → P (c.request s).2 ∧ Q (c.request s).1)
    (post : ∀ c s, s.IsOneWay → sent s → P c → P (c.post s))
    (close : leaves → ∀ c, P c → P c.close) {d : Dialogue α} (sends : d.Sends sent leaves)
    {c : Client σ} (h : P c) : P (d.run c).2 ∧ ∀ result ∈ d.results c, Q result := by
  induction d generalizing c with
  | settled value => exact ⟨h, fun _ mem => absurd mem List.not_mem_nil⟩
  | ask s due next ih =>
    obtain ⟨kept, asked⟩ := request c s due sends.1 h
    obtain ⟨ran, results⟩ := ih _ (sends.2 _) kept
    exact ⟨ran, List.forall_mem_cons.2 ⟨asked, results⟩⟩
  | tell s oneWay next ih => exact ih sends.2 (post c s oneWay sends.1 h)
  | leave next ih => exact ih sends.2 (close sends.1 c h)

theorem run_induction {P : Client σ → Prop}
    (request : ∀ c s, s.answer?.isSome = true → P c → P (c.request s).2)
    (post : ∀ c s, s.IsOneWay → P c → P (c.post s)) (close : ∀ c, P c → P c.close)
    (d : Dialogue α) {c : Client σ} (h : P c) : P (d.run c).2 :=
  (run_of_sends (Q := fun _ => True) (fun c s due _ h => ⟨request c s due h, trivial⟩)
    (fun c s oneWay _ h => post c s oneWay h) (fun _ => close) d.sends_any h).1

/-- A request, and what `unpack?` finds in the answer. -/
def question (s : Signal) (due : s.answer?.isSome = true) (neutral : α)
    (unpack? : Signal → Option α) : Dialogue α :=
  .ask s due fun reply? => .settled ((reply?.bind unpack?).getD neutral)

theorem run_question {s : Signal} {due : s.answer?.isSome = true} {neutral : α}
    {unpack? : Signal → Option α} (c : Client σ) :
    (question s due neutral unpack?).run c = c.ask s neutral unpack? := by
  rw [question, run, run, Client.ask]
  cases c.request s with
  | mk result c => cases result <;> rfl

/-- Asks with one attempt after the other until access is granted or time is up. -/
def waiting (policy : RetryPolicy) (ask : Int32 → Dialogue Bool) :
    List Duration → Int32 → Dialogue (Option Bool)
  | [], attempt => (ask attempt).bind fun yes => .settled (if yes then some true else none)
  | elapsed :: clock, attempt => (ask attempt).bind fun yes =>
    if yes then .settled (some true)
    else if policy.IsOver elapsed then .settled (some false)
    else waiting policy ask clock (nextAttempt attempt)

/-- Waiting is a dialogue if every attempt is one, of all the clients that the attempts lead to. -/
theorem run_waiting {policy : RetryPolicy} {ask : Int32 → Dialogue Bool} {P : Client σ → Prop}
    {attempts : Int32 → Client σ → Bool × Client σ}
    (attempted : ∀ attempt c, P c → attempts attempt c = (ask attempt).run c)
    (kept : ∀ attempt c, P c → P (attempts attempt c).2) (clock : List Duration) (attempt : Int32)
    {c : Client σ} (h : P c) :
    waitFrom policy attempts clock attempt c = (waiting policy ask clock attempt).run c := by
  induction clock generalizing attempt c with
  | nil =>
    rw [waitFrom, waiting, run_bind, ← attempted attempt c h]
    cases attempts attempt c with
    | mk yes c => cases yes <;> rfl
  | cons elapsed clock ih =>
    have next := kept attempt c h
    rw [waitFrom, waiting, run_bind, ← attempted attempt c h]
    cases ha : attempts attempt c with
    | mk yes c' =>
      rw [ha] at next
      cases yes with
      | true => rfl
      | false =>
        by_cases late : policy.IsOver elapsed
        · simp only [late, ↓reduceIte, Bool.false_eq_true]
          rfl
        · simp only [late, ↓reduceIte, Bool.false_eq_true]
          exact ih _ next

end Dialogue

/-! ## Who a client is -/

namespace Client

variable {σ : Type} [Peer σ] {c : Client σ}

/-- Whether a client acts for the processor `me` on behalf of the program `progname`. -/
def IsOf (me : Partner) (progname : String) (c : Client σ) : Prop :=
  c.me = me ∧ c.config.progname = progname

variable {me : Partner} {progname : String}

theorem writeSignal_isOf (h : c.IsOf me progname) {s : Signal} {c' : Client σ}
    (hw : c.writeSignal s = .ok c') : c'.IsOf me progname := by
  rw [writeSignal] at hw
  split at hw
  · cases hw
  split at hw
  · cases hw
  · cases hw
    exact h

theorem exchange_isOf (h : c.IsOf me progname) (s : Signal) (expected : SignalKind) :
    (c.exchange s expected).2.IsOf me progname := by
  rw [exchange]
  split
  · exact h
  rename_i c' hw
  have written := writeSignal_isOf h hw
  rw [readSignal]
  cases (readFrame c'.buffer (Peer.inbound c'.peer)).result with
  | error e => exact written
  | ok reply? =>
    cases reply? with
    | none => exact written
    | some reply =>
      dsimp only
      split <;> exact written

theorem request_isOf (h : c.IsOf me progname) (s : Signal) : (c.request s).2.IsOf me progname := by
  rw [request]
  split
  · exact h
  rename_i expected _
  split
  · have exchanged := exchange_isOf h s expected
    split
    · rename_i he
      rw [he] at exchanged
      exact exchanged
    · rename_i he
      rw [he] at exchanged
      exact exchanged
  · exact h

theorem ask_isOf {α : Type} (h : c.IsOf me progname) (s : Signal) (neutral : α)
    (unpack? : Signal → Option α) : (c.ask s neutral unpack?).2.IsOf me progname := by
  have requested := request_isOf h s
  rw [ask]
  generalize c.request s = done at requested ⊢
  obtain ⟨result, c⟩ := done
  cases result <;> exact requested

theorem post_isOf (h : c.IsOf me progname) (s : Signal) : (c.post s).IsOf me progname := by
  rw [post, send]
  split
  · split
    · rename_i hw
      exact writeSignal_isOf h hw
    · exact h
  · exact h

theorem close_isOf (h : c.IsOf me progname) : c.close.IsOf me progname := by
  rw [close]
  split
  · split <;> exact h
  · exact h

theorem run_isOf {α : Type} (h : c.IsOf me progname) (d : Dialogue α) :
    (d.run c).2.IsOf me progname :=
  d.run_induction (P := IsOf me progname) (fun _ s _ h => request_isOf h s)
    (fun _ s _ h => post_isOf h s) (fun _ h => close_isOf h) h

end Client

/-! ## Calls as dialogues -/

/-- The bytes that workspaces give away are not acknowledged. -/
theorem Signal.isOneWay_of_kind {s : Signal} (h : s.kind = .assignWswsVar) : s.IsOneWay := by
  rw [IsOneWay, answer?, h]
  decide

/-- The signal of a call is no answer. -/
theorem StoreCall.isOneWay_signal {me : Partner} {progname : String} (call : StoreCall)
    (h : ¬(call.signal me progname).answer?.isSome = true) : (call.signal me progname).IsOneWay := by
  refine ⟨Option.not_isSome_iff_eq_none.1 h, ?_⟩
  cases call <;> (simp only [signal, Signal.kind]; decide)

/-- A call is a question if it has an answer, and else a one-way signal. -/
def StoreCall.dialogue (me : Partner) (progname : String) (call : StoreCall) :
    Dialogue call.Answer :=
  if due : (call.signal me progname).answer?.isSome = true then
    .question (call.signal me progname) due call.neutral call.unpack?
  else .tell (call.signal me progname) (call.isOneWay_signal due) (.settled call.neutral)

/-- A call is a dialogue. -/
def ClientCall.dialogue (me : Partner) (progname : String) : (call : ClientCall) → Dialogue call.Answer
  | .store call => call.dialogue me progname
  | .readRecord key => .question (.readSvarRecord key) (Option.isSome_of_eq_some rfl) none fun
    | .svarRecordIs record => some ((decodeRecord record).toOption.getD none)
    | _ => none
  | .assignValue key value policy clock =>
    (Dialogue.waiting policy (fun attempt => (StoreCall.maySet key attempt).dialogue me progname) clock
      0).bind fun
    | some true =>
      ((StoreCall.setState key false).dialogue me progname).bind fun _ =>
        (Dialogue.question (.assignValue key value) (Option.isSome_of_eq_some rfl) false fun
          | .svarAssigned _ error _ => some (error == Signal.noError)
          | _ => none).bind fun stored => .settled (some stored)
    | waited => .settled waited
  | .readValue key policy clock =>
    (Dialogue.waiting policy (fun attempt => (StoreCall.mayUse key attempt).dialogue me progname) clock
      0).bind fun
    | some true =>
      (Dialogue.question (.getValue key) (Option.isSome_of_eq_some rfl) none fun
        | .valueIs _ error _ value => if error = Signal.noError then some (some value) else none
        | _ => none).bind fun
        | some value =>
          ((StoreCall.setState key true).dialogue me progname).bind fun _ => .settled (some (some value))
        | none => .settled (some none)
    | some false => .settled (some none)
    | none => .settled none
  | .assignExchanged key value => .tell (.assignWswsVar key value) (Signal.isOneWay_of_kind rfl) (.settled ())
  | .readExchanged key => .question (.readWswsVar key) (Option.isSome_of_eq_some rfl) [] fun
    | .wswsValueIs value => some value
    | _ => none
  | .close => .leave (.settled ())

namespace Client

variable {σ : Type} [Peer σ] {c : Client σ} {me : Partner} {progname : String}

theorem call_eq_run (h : c.IsOf me progname) (call : StoreCall) :
    c.call call = (call.dialogue me progname).run c := by
  obtain ⟨rfl, rfl⟩ := h
  rw [StoreCall.dialogue, Client.call]
  by_cases due : (call.signal c.me c.config.progname).answer?.isSome = true
  · rw [dif_pos due, Dialogue.run_question]
    exact if_pos due
  · rw [dif_neg due]
    exact if_neg due

/-- Waiting for access is a dialogue. -/
theorem waitUntil_eq_run (h : c.IsOf me progname) (policy : RetryPolicy) (clock : List Duration)
    {attempts : Int32 → Client σ → Bool × Client σ} {ask : Int32 → Dialogue Bool}
    (attempted : ∀ n (c : Client σ), c.IsOf me progname → attempts n c = (ask n).run c) :
    waitUntil policy attempts clock c = (Dialogue.waiting policy ask clock 0).run c := by
  refine Dialogue.run_waiting attempted (fun n c h => ?_) clock 0 h
  rw [attempted n c h]
  exact run_isOf h _

theorem assignValue_eq_run (h : c.IsOf me progname) (key : Key) (value : Bytes) (policy : RetryPolicy)
    (clock : List Duration) : c.assignValue key value policy clock =
      ((ClientCall.assignValue key value policy clock).dialogue me progname).run c := by
  have waits : c.waitMaySet key policy clock = _ :=
    waitUntil_eq_run h policy clock fun n c h => call_eq_run h (.maySet key n)
  rw [assignValue, ClientCall.dialogue, Dialogue.run_bind, waits]
  have own := run_isOf h (Dialogue.waiting policy
    (fun n => (StoreCall.maySet key n).dialogue me progname) clock 0)
  generalize Dialogue.run _ c = waited at own ⊢
  obtain ⟨granted, c⟩ := waited
  match granted with
  | none => rfl
  | some false => rfl
  | some true =>
    dsimp only at own ⊢
    rw [Dialogue.run_bind, ← call_eq_run own, Dialogue.run_bind, Dialogue.run_question]
    rfl

theorem readValue_eq_run (h : c.IsOf me progname) (key : Key) (policy : RetryPolicy)
    (clock : List Duration) : c.readValue key policy clock =
      ((ClientCall.readValue key policy clock).dialogue me progname).run c := by
  have waits : c.waitMayUse key policy clock = _ :=
    waitUntil_eq_run h policy clock fun n c h => call_eq_run h (.mayUse key n)
  rw [readValue, ClientCall.dialogue, Dialogue.run_bind, waits]
  have own := run_isOf h (Dialogue.waiting policy
    (fun n => (StoreCall.mayUse key n).dialogue me progname) clock 0)
  generalize Dialogue.run _ c = waited at own ⊢
  obtain ⟨granted, c⟩ := waited
  match granted with
  | none => rfl
  | some false => rfl
  | some true =>
    dsimp only at own ⊢
    rw [Dialogue.run_bind, Dialogue.run_question]
    have asked := ask_isOf own (.getValue key) (none : Option Bytes) fun
      | .valueIs _ error _ value => if error = Signal.noError then some (some value) else none
      | _ => none
    generalize c.ask (.getValue key) (none : Option Bytes) _ = answer at asked ⊢
    obtain ⟨value?, c⟩ := answer
    cases value? with
    | none => rfl
    | some value =>
      dsimp only at asked ⊢
      rw [Dialogue.run_bind, ← call_eq_run asked]
      rfl

/-- Whatever the peer, a client that makes a call holds its dialogue. -/
theorem make_eq_run (c : Client σ) (call : ClientCall) :
    c.make call = (call.dialogue c.me c.config.progname).run c := by
  have own : c.IsOf c.me c.config.progname := ⟨rfl, rfl⟩
  cases call with
  | store call => exact call_eq_run own call
  | readRecord key => exact (Dialogue.run_question c).symm
  | assignValue key value policy clock => exact assignValue_eq_run own key value policy clock
  | readValue key policy clock => exact readValue_eq_run own key policy clock
  | assignExchanged key value => rfl
  | readExchanged key => exact (Dialogue.run_question c).symm
  | close => rfl

/-- A call leaves the client of the same processor and program. -/
theorem make_isOf (h : c.IsOf me progname) (call : ClientCall) : (c.make call).2.IsOf me progname := by
  rw [make_eq_run]
  exact run_isOf h _

/-- What the requests of calls come to, first to last. -/
def results (c : Client σ) : List ClientCall → List (Except SignalError Signal)
  | [] => []
  | call :: calls =>
    (call.dialogue c.me c.config.progname).results c ++ (c.make call).2.results calls

/-- What requests, one-way signals and good-byes keep is kept by calls, and what requests come to as long
as it is kept is what those of the calls come to. -/
theorem after_of_sends {P : Client σ → Prop} {Q : Except SignalError Signal → Prop}
    {sent : Signal → Prop} {leaves : Prop}
    (request : ∀ c s, s.answer?.isSome = true → sent s → P c → P (c.request s).2 ∧ Q (c.request s).1)
    (post : ∀ c s, s.IsOneWay → sent s → P c → P (c.post s))
    (close : leaves → ∀ c, P c → P c.close) {calls : List ClientCall} (own : c.IsOf me progname)
    (sends : ∀ call ∈ calls, (call.dialogue me progname).Sends sent leaves) (h : P c) :
    P (c.after calls) ∧ ∀ result ∈ c.results calls, Q result := by
  induction calls generalizing c with
  | nil => exact ⟨h, fun _ mem => absurd mem List.not_mem_nil⟩
  | cons call calls ih =>
    obtain ⟨first, rest⟩ := List.forall_mem_cons.1 sends
    have ran := Dialogue.run_of_sends request post close first h
    have next := make_isOf own call
    obtain ⟨rfl, rfl⟩ := own
    rw [make_eq_run] at next
    obtain ⟨kept, results⟩ := ih next rest ran.1
    rw [← make_eq_run] at kept results
    refine ⟨kept, fun result mem => ?_⟩
    rcases List.mem_append.1 mem with mem | mem
    · exact ran.2 result mem
    · exact results result mem

theorem after_induction {P : Client σ → Prop}
    (request : ∀ c s, s.answer?.isSome = true → P c → P (c.request s).2)
    (post : ∀ c s, s.IsOneWay → P c → P (c.post s)) (close : ∀ c, P c → P c.close)
    (calls : List ClientCall) (h : P c) : P (c.after calls) :=
  (after_of_sends (Q := fun _ => True) (fun c s due _ h => ⟨request c s due h, trivial⟩)
    (fun c s oneWay _ h => post c s oneWay h) (fun _ => close) ⟨rfl, rfl⟩
    (fun _ _ => Dialogue.sends_any _) h).1

end Client

end SharedVariables
