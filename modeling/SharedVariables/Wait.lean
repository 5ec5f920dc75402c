import SharedVariables.Duration

/-!
# Waiting for access

A partner that may not set or use a variable asks again and again until it may or its patience is
used up. It numbers its attempts, so that the other partner is told only once that it is waiting.

The clock is a list of readings, one for each refusal: the time since the waiting began. Waiting is
not over as long as no reading tells that time is up.
-/

namespace SharedVariables

/-- How to wait. -/
structure RetryPolicy where
  /-- The pause between two attempts. -/
  interval : Duration
  /-- How long it takes until an attempt is the last one. -/
  maxWait : Duration
deriving DecidableEq, Repr

namespace RetryPolicy

/-- A hundred attempts a second, for five seconds. -/
def default : RetryPolicy := ⟨.ofMillis 10, .ofSeconds 5⟩

/-- Whether an attempt that is refused at this time is the last one. -/
def IsOver (policy : RetryPolicy) (elapsed : Duration) : Prop :=
  policy.maxWait.nanos ≤ elapsed.nanos

instance (policy : RetryPolicy) (elapsed : Duration) : Decidable (policy.IsOver elapsed) :=
  inferInstanceAs (Decidable (_ ≤ _))

end RetryPolicy

/-- The number of the attempt after `attempt`; there is none beyond the largest. -/
def nextAttempt (attempt : Int32) : Int32 :=
  if attempt = Int32.maxValue then attempt else attempt + 1

/-- Asks with the attempt `attempt` and those after it until access is granted or time is up. The
answer is `none` as long as neither has happened. -/
def waitFrom {σ : Type} (policy : RetryPolicy) (ask : Int32 → σ → Bool × σ) :
    (clock : List Duration) → (attempt : Int32) → σ → Option Bool × σ
  | [], attempt, s =>
    match ask attempt s with
    | (true, s) => (some true, s)
    | (false, s) => (none, s)
  | elapsed :: clock, attempt, s =>
    match ask attempt s with
    | (true, s) => (some true, s)
    | (false, s) =>
      if policy.IsOver elapsed then (some false, s)
      else waitFrom policy ask clock (nextAttempt attempt) s

/-- Asks until access is granted or time is up. -/
def waitUntil {σ : Type} (policy : RetryPolicy) (ask : Int32 → σ → Bool × σ)
    (clock : List Duration) (s : σ) : Option Bool × σ :=
  waitFrom policy ask clock 0 s

end SharedVariables
