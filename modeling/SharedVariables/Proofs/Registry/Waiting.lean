import SharedVariables.Proofs.Registry.Operation
import SharedVariables.Proofs.Waiting

/-!
# Waiting for access at a registry

A processor that waits for access asks a registry again and again, and between two attempts others do what
they like to it (`Demand.ask`). The other partner is told of the refusal of an attempt number 0, and of no
other one (`grants_silent_or_refuses`). A wait makes one such attempt, its first one, however long it lasts
and whatever the others do (`waiting_tells_once`).
-/

namespace SharedVariables

/-- The access that a processor waits for. -/
inductive Demand where
  | use
  | set
deriving DecidableEq

/-- The event that tells of a refusal. -/
def Demand.failed : Demand → Event
  | use => .useFailed
  | set => .setFailed

/-- A registry and what others will do to it: the operations after the next attempt, those after the one that
follows, and so on. -/
abbrev SharedRegistry := Registry × List (List Operation)

namespace Registry

variable {r : Registry} {key : Key} {id : ProcessorId} {failed : Event} {answer : Outcome Bool}

/-- Whether the processor `id` may now have the access to the variable `key` that it waits for. -/
def grants (r : Registry) (demand : Demand) (key : Key) (id : ProcessorId) (attempt : Int32) : Outcome Bool :=
  match demand with
  | .use => r.mayUse key id attempt
  | .set => r.maySet key id attempt

/-- Whether an answer changes nothing and tells nobody. -/
def Silent (r : Registry) (answer : Outcome Bool) : Prop := answer = r.unchanged answer.value

/-- Whether an answer is a refusal, and does nothing but fire `failed` at the other side of the variable
`key`. -/
def Refuses (r : Registry) (key : Key) (id : ProcessorId) (failed : Event) (answer : Outcome Bool) : Prop :=
  ∃ i side, r.callerRow key id = some (i, side) ∧
    answer = (r.fireEvent i side.other failed).map fun _ => false

theorem mayAccess_silent_or_refuses (r : Registry) (key : Key) (id : ProcessorId) (attempt : Int32)
    (byMe : Control) (failed : Event) :
    r.Silent (r.mayAccess key id attempt byMe failed) ∨
      attempt = 0 ∧ r.Refuses key id failed (r.mayAccess key id attempt byMe failed) := by
  simp only [mayAccess]
  split
  · exact .inl rfl
  · rename_i i side hc
    split
    · exact .inl rfl
    · split
      · rename_i first
        exact .inr ⟨first, i, side, hc, rfl⟩
      · exact .inl rfl

theorem grants_silent_or_refuses (r : Registry) (demand : Demand) (key : Key) (id : ProcessorId)
    (attempt : Int32) : r.Silent (r.grants demand key id attempt) ∨
      attempt = 0 ∧ r.Refuses key id demand.failed (r.grants demand key id attempt) := by
  cases demand with
  | use => exact mayAccess_silent_or_refuses r key id attempt _ _
  | set => exact mayAccess_silent_or_refuses r key id attempt _ _

theorem Silent.notices (h : r.Silent answer) : answer.notices = [] :=
  congrArg Outcome.notices h

theorem length_notify_le (port : UInt16) (kind : NoticeKind) (key : Key) :
    (notify port kind key).length ≤ 1 := by
  rw [notify]
  split
  · exact Nat.zero_le 1
  · exact Nat.le_refl 1

theorem Refuses.length_notices (h : r.Refuses key id failed answer) : answer.notices.length ≤ 1 := by
  obtain ⟨i, side, -, rfl⟩ := h
  simp only [fireEvent]
  split
  · exact length_notify_le ..
  · exact Nat.zero_le 1

end Registry

/-- Asks a shared registry for access; then the others have their turn. -/
def Demand.ask (demand : Demand) (key : Key) (id : ProcessorId) (attempt : Int32) (s : SharedRegistry) :
    Bool × SharedRegistry :=
  let answer := s.1.grants demand key id attempt
  (answer.value, answer.registry.run (s.2.headD []), s.2.tail)

/-- What a registry answers to an attempt. -/
def Attempt.answer (a : Attempt SharedRegistry) (demand : Demand) (key : Key) (id : ProcessorId) :
    Outcome Bool :=
  a.store.1.grants demand key id a.number

namespace Registry

variable {demand : Demand} {key : Key} {id : ProcessorId}

/-- An attempt that is not number 0 changes nothing and tells nobody. -/
theorem silent_of_number_ne_zero {a : Attempt SharedRegistry} (later : a.number ≠ 0) :
    a.store.1.Silent (a.answer demand key id) :=
  (grants_silent_or_refuses a.store.1 demand key id a.number).resolve_right fun told => later told.1

/-- Waiting tells the other partner once. Whatever is asked, and whatever the clock tells: a first attempt is
made, which is number 0, and their numbers then count up to the largest one and stay there, so that no later
attempt is number 0. All attempts but the last are refused while there is time; waiting ends with access if
the last one is granted, and without if it is refused and time is up.

A registry that is asked may change in any way between two attempts. At the first attempt it does nothing, or
else refuses and fires one event, `SET_FAILED` or `USE_FAILED`, at the other side of the variable. At no later
attempt does it do anything, so at most one notification is sent by all of them. -/
theorem waiting_tells_once (policy : RetryPolicy) (clock : List Duration) :
    (∀ {σ : Type} (ask : Int32 → σ → Bool × σ) (s : σ),
      let attempts := attemptsOf policy ask clock s
      let waited := waitUntil policy ask clock s
      (∃ n, attempts = (List.range (n + 1)).map (attemptAfter ask s) ∧
        (∀ k < n, policy.GoesOn (grantedAfter ask s k) clock[k]?) ∧
        policy.Verdict (grantedAfter ask s n) clock[n]? waited.1 ∧
        waited.2 = storeAfter ask s (n + 1)) ∧
      (attempts.map Attempt.number).Pairwise (· ≤ ·) ∧ ∀ a ∈ attempts.tail, a.number ≠ 0) ∧
    (∀ k, (attemptNumber k).toInt = ↑(min k 2147483647)) ∧
    ∀ (demand : Demand) (key : Key) (id : ProcessorId) (r : Registry) (others : List (List Operation)),
      let attempts := attemptsOf policy (demand.ask key id) clock (r, others)
      let first := r.grants demand key id 0
      attempts.head? = some ⟨0, r, others⟩ ∧
      (r.Silent first ∨ r.Refuses key id demand.failed first) ∧
      (∀ a ∈ attempts.tail, a.store.1.Silent (a.answer demand key id)) ∧
      (attempts.flatMap fun a => (a.answer demand key id).notices).length ≤ 1 := by
  refine ⟨fun ask s => ?_, toInt_attemptNumber, fun demand key id r others => ?_⟩
  · obtain ⟨later, made, numbers⟩ := attemptsOf_eq_cons policy ask clock s
    refine ⟨waitUntil_counted policy ask clock s, numbers_pairwise policy ask clock s, ?_⟩
    rwa [made]
  · obtain ⟨later, made, numbers⟩ := attemptsOf_eq_cons policy (demand.ask key id) clock (r, others)
    have first := (grants_silent_or_refuses r demand key id 0).imp_right And.right
    have silent : ∀ a ∈ later, a.store.1.Silent (a.answer demand key id) :=
      fun a ha => silent_of_number_ne_zero (numbers a ha)
    have quiet : later.flatMap (fun a => (a.answer demand key id).notices) = [] :=
      List.flatMap_eq_nil_iff.2 fun a ha => (silent a ha).notices
    simp only [made]
    refine ⟨rfl, first, silent, ?_⟩
    rw [List.flatMap_cons, quiet, List.append_nil]
    rcases first with nothing | refused
    · exact (congrArg List.length nothing.notices).trans_le (Nat.zero_le 1)
    · exact refused.length_notices

/-- The offering partner has set a variable that it may not set twice, and waits until it may set it again.
It is refused twice, but only the first refusal is told. Then the other partner uses the variable. -/
theorem waiting_tells_once_of_late_use :
    let a := Partner.ofProcess (.single 1001) 10 0
    let b := Partner.ofProcess (.single 1002) 20 6000
    let name := Name.ofText "X"
    let coupled := empty.run [.matchOrMake name b.id a, .matchOrMake name a.id b]
    let key := (coupled.rows.get 0).key
    let r := coupled.run [.setControl key a.id .setByMe, .setState key a.id false]
    let others := [[], [.setState key b.id true]]
    let clock := [Duration.ofMillis 0, .ofMillis 10, .ofMillis 20]
    let attempts := attemptsOf .default (Demand.set.ask key a.id) clock (r, others)
    (waitUntil .default (Demand.set.ask key a.id) clock (r, others)).1 = some true ∧
      attempts.map Attempt.number = [0, 1, 2] ∧
      (r.grants .set key a.id 0).notices = [⟨6000, .newEvent .setFailed, key⟩] ∧
      ∃ second ∈ attempts.tail, (second.answer .set key a.id).value = false ∧
        second.store.1.Silent (second.answer .set key a.id) := by
  intro a b name coupled key r others clock attempts
  have again : false ∈ attempts.tail.map fun attempt => (attempt.answer .set key a.id).value := by
    decide +kernel
  obtain ⟨second, later, refused⟩ := List.mem_map.1 again
  have silent := ((waiting_tells_once .default clock).2.2 .set key a.id r others).2.2.1 second later
  exact ⟨by decide +kernel, by decide +kernel, by decide +kernel, second, later, refused, silent⟩

end Registry

end SharedVariables
