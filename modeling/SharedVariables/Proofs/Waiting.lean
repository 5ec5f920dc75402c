import SharedVariables.Wait

/-!
# The attempts of a wait

`Waits` goes through a wait attempt by attempt, and that is how waiting goes (`exists_waits`,
`Waits.result`). A store that is asked keeps no list of the attempts, so `recorded` is one that does, which
makes no other difference (`Waits.recorded_result`). All attempts but the last are refused while there is
time, and the last one decides (`Waits.counted`). Their numbers go up from 0 to the largest one and stay
there (`toInt_attemptNumber`), so only the first attempt is number 0 (`attemptsOf_eq_cons`).
-/

namespace SharedVariables

/-- The number of the attempt after `n` others. Attempts are numbered from 0 on; all after the largest
number have that one. -/
def attemptNumber (n : Nat) : Int32 := .ofNat (min n (2147483647))

theorem nextAttempt_attemptNumber (n : Nat) : nextAttempt (attemptNumber n) = attemptNumber (n + 1) := by
  by_cases more : n < 2147483647
  · have small : attemptNumber n ≠ Int32.maxValue := by
      intro h
      have number := congrArg Int32.toInt h
      rw [attemptNumber, Int32.toInt_ofNat_of_lt (by omega), Int32.toInt_maxValue] at number
      omega
    rw [nextAttempt, if_neg small, attemptNumber, attemptNumber, Nat.min_eq_left (by omega),
      Nat.min_eq_left (by omega), Int32.ofNat_add]
    rfl
  · have last (m : Nat) (h : 2147483647 ≤ m) : attemptNumber m = Int32.maxValue := by
      rw [attemptNumber, Nat.min_eq_right h]
      rfl
    rw [last n (by omega), last (n + 1) (by omega)]
    exact if_pos rfl

theorem toInt_attemptNumber (n : Nat) : (attemptNumber n).toInt = ↑(min n 2147483647) :=
  Int32.toInt_ofNat_of_lt (by omega)

theorem attemptNumber_le {m n : Nat} (h : m ≤ n) : attemptNumber m ≤ attemptNumber n := by
  rw [Int32.le_iff_toInt_le, toInt_attemptNumber, toInt_attemptNumber]
  omega

theorem attemptNumber_eq_zero_iff {n : Nat} : attemptNumber n = 0 ↔ n = 0 := by
  rw [← Int32.toInt_inj, toInt_attemptNumber, Int32.toInt_zero]
  omega

/-- An attempt: its number, and the store that is asked. -/
structure Attempt (σ : Type) where
  number : Int32
  store : σ

variable {σ : Type}

/-- Asks a store, and adds the attempt to a list. -/
def recorded (ask : Int32 → σ → Bool × σ) (number : Int32) (s : σ × List (Attempt σ)) :
    Bool × σ × List (Attempt σ) :=
  ((ask number s.1).1, (ask number s.1).2, s.2 ++ [⟨number, s.1⟩])

/-- The attempts that are made by waiting, first to last. -/
def attemptsOf (policy : RetryPolicy) (ask : Int32 → σ → Bool × σ) (clock : List Duration) (s : σ) :
    List (Attempt σ) :=
  (waitUntil policy (recorded ask) clock (s, [])).2.2

/-- The store after `n` attempts. -/
def storeAfter (ask : Int32 → σ → Bool × σ) (s : σ) : Nat → σ
  | 0 => s
  | n + 1 => (ask (attemptNumber n) (storeAfter ask s n)).2

/-- The attempt after `n` others. -/
def attemptAfter (ask : Int32 → σ → Bool × σ) (s : σ) (n : Nat) : Attempt σ :=
  ⟨attemptNumber n, storeAfter ask s n⟩

/-- Whether the attempt after `n` others is granted. -/
def grantedAfter (ask : Int32 → σ → Bool × σ) (s : σ) (n : Nat) : Bool :=
  (ask (attemptNumber n) (storeAfter ask s n)).1

namespace RetryPolicy

/-- Whether waiting goes on after an attempt: the attempt is refused, and the clock tells that there is time
left. -/
def GoesOn (policy : RetryPolicy) (granted : Bool) (reading : Option Duration) : Prop :=
  granted = false ∧ ∃ elapsed, reading = some elapsed ∧ ¬policy.IsOver elapsed

/-- What waiting comes to with an attempt after which it does not go on. If the clock is not read any more,
there is no answer yet. -/
inductive Verdict (policy : RetryPolicy) : (granted : Bool) → (reading : Option Duration) →
    Option Bool → Prop
  | granted {reading : Option Duration} : Verdict policy true reading (some true)
  | exhausted {elapsed : Duration} (ended : policy.IsOver elapsed) :
    Verdict policy false (some elapsed) (some false)
  | waiting : Verdict policy false none none

theorem verdict_or_goesOn (policy : RetryPolicy) (granted : Bool) (reading : Option Duration) :
    (∃ answer, policy.Verdict granted reading answer) ∨ policy.GoesOn granted reading := by
  cases granted with
  | true => exact .inl ⟨_, .granted⟩
  | false =>
    cases reading with
    | none => exact .inl ⟨_, .waiting⟩
    | some elapsed =>
      by_cases ended : policy.IsOver elapsed
      · exact .inl ⟨_, .exhausted ended⟩
      · exact .inr ⟨rfl, elapsed, rfl, ended⟩

theorem not_goesOn_none {policy : RetryPolicy} {granted : Bool} : ¬policy.GoesOn granted none := by
  rintro ⟨-, elapsed, unread, -⟩
  cases unread

end RetryPolicy

/-- Waiting, attempt by attempt, from the attempt `number` on: the attempts that are made, and what they come
to. -/
inductive Waits (policy : RetryPolicy) (ask : Int32 → σ → Bool × σ) :
    (clock : List Duration) → (number : Int32) → σ → (made : List (Attempt σ)) → Option Bool × σ → Prop
  | ends {clock : List Duration} {number : Int32} {s : σ} {answer : Option Bool}
    (verdict : policy.Verdict (ask number s).1 clock.head? answer) :
    Waits policy ask clock number s [⟨number, s⟩] (answer, (ask number s).2)
  | goesOn {elapsed : Duration} {clock : List Duration} {number : Int32} {s : σ}
    {later : List (Attempt σ)} {waited : Option Bool × σ}
    (refused : policy.GoesOn (ask number s).1 (some elapsed))
    (rest : Waits policy ask clock (nextAttempt number) (ask number s).2 later waited) :
    Waits policy ask (elapsed :: clock) number s (⟨number, s⟩ :: later) waited

variable {policy : RetryPolicy} {ask : Int32 → σ → Bool × σ} {clock : List Duration} {number : Int32}
  {made : List (Attempt σ)} {s : σ} {waited : Option Bool × σ}

theorem waitFrom_of_verdict {answer : Option Bool}
    (verdict : policy.Verdict (ask number s).1 clock.head? answer) :
    waitFrom policy ask clock number s = (answer, (ask number s).2) := by
  generalize asked : ask number s = attempt at verdict
  obtain ⟨granted, s'⟩ := attempt
  cases clock with
  | nil =>
    rw [waitFrom, asked]
    cases verdict <;> rfl
  | cons elapsed clock =>
    rw [waitFrom, asked]
    cases verdict with
    | granted => rfl
    | exhausted ended => exact if_pos ended

theorem waitFrom_of_goesOn {elapsed : Duration} (refused : policy.GoesOn (ask number s).1 (some elapsed)) :
    waitFrom policy ask (elapsed :: clock) number s =
      waitFrom policy ask clock (nextAttempt number) (ask number s).2 := by
  generalize asked : ask number s = attempt at refused ⊢
  obtain ⟨granted, s'⟩ := attempt
  obtain ⟨no, _, read, more⟩ := refused
  cases no
  cases read
  rw [waitFrom, asked]
  exact if_neg more

theorem exists_waits (policy : RetryPolicy) (ask : Int32 → σ → Bool × σ) (clock : List Duration)
    (number : Int32) (s : σ) : ∃ made waited, Waits policy ask clock number s made waited := by
  induction clock generalizing number s with
  | nil =>
    rcases policy.verdict_or_goesOn (ask number s).1 none with ⟨answer, verdict⟩ | refused
    · exact ⟨_, _, .ends verdict⟩
    · exact absurd refused RetryPolicy.not_goesOn_none
  | cons elapsed clock ih =>
    rcases policy.verdict_or_goesOn (ask number s).1 (some elapsed) with ⟨answer, verdict⟩ | refused
    · exact ⟨_, _, .ends verdict⟩
    · obtain ⟨later, waited, rest⟩ := ih (nextAttempt number) (ask number s).2
      exact ⟨_, _, .goesOn refused rest⟩

namespace Waits

theorem result (h : Waits policy ask clock number s made waited) :
    waitFrom policy ask clock number s = waited := by
  induction h with
  | ends verdict => exact waitFrom_of_verdict verdict
  | goesOn refused _ ih => exact (waitFrom_of_goesOn refused).trans ih

/-- What is recorded are the attempts that are made, and to record them makes no other difference. -/
theorem recorded_result (h : Waits policy ask clock number s made waited) (before : List (Attempt σ)) :
    waitFrom policy (recorded ask) clock number (s, before) = (waited.1, waited.2, before ++ made) := by
  induction h generalizing before with
  | ends verdict => exact waitFrom_of_verdict verdict
  | goesOn refused _ ih =>
    rw [List.append_cons]
    refine (waitFrom_of_goesOn ?_).trans (ih _)
    exact refused

/-- From the attempt after `m` others on, all attempts but the last are refused while there is time, and the
last one decides. -/
theorem counted (h : Waits policy ask clock number s made waited) (start : σ) (m : Nat)
    (hn : number = attemptNumber m) (hs : s = storeAfter ask start m) :
    ∃ n, made = (List.range' m (n + 1)).map (attemptAfter ask start) ∧
      (∀ k < n, policy.GoesOn (grantedAfter ask start (m + k)) clock[k]?) ∧
      policy.Verdict (grantedAfter ask start (m + n)) clock[n]? waited.1 ∧
      waited.2 = storeAfter ask start (m + n + 1) := by
  induction h generalizing m with
  | ends verdict =>
    subst hn hs
    rw [List.head?_eq_getElem?] at verdict
    exact ⟨0, rfl, fun k hk => absurd hk (Nat.not_lt_zero k), verdict, rfl⟩
  | goesOn refused _ ih =>
    subst hn hs
    obtain ⟨n, made, later, verdict, store⟩ := ih (m + 1) (nextAttempt_attemptNumber m) rfl
    have shift (k : Nat) : m + 1 + k = m + (k + 1) := Nat.add_right_comm m 1 k
    simp only [shift] at later verdict store
    refine ⟨n + 1, ?_, fun k hk => ?_, verdict, store⟩
    · rw [made, List.range'_succ, List.map_cons]
      rfl
    · cases k with
      | zero => exact refused
      | succ k => exact later k (Nat.lt_of_succ_lt_succ hk)

end Waits

/-- What every attempt keeps, waiting keeps. -/
theorem waitFrom_keeps {P : σ → Prop} (kept : ∀ attempt s, P s → P (ask attempt s).2)
    (clock : List Duration) (attempt : Int32) (h : P s) : P (waitFrom policy ask clock attempt s).2 := by
  obtain ⟨made, waited, waits⟩ := exists_waits policy ask clock attempt s
  rw [waits.result]
  induction waits with
  | ends => exact kept _ _ h
  | goesOn _ _ ih => exact ih (kept _ _ h)

/-- Waiting makes the attempts up to one that decides; the others are refused while there is time. -/
theorem waitUntil_counted (policy : RetryPolicy) (ask : Int32 → σ → Bool × σ) (clock : List Duration)
    (s : σ) :
    ∃ n, attemptsOf policy ask clock s = (List.range (n + 1)).map (attemptAfter ask s) ∧
      (∀ k < n, policy.GoesOn (grantedAfter ask s k) clock[k]?) ∧
      policy.Verdict (grantedAfter ask s n) clock[n]? (waitUntil policy ask clock s).1 ∧
      (waitUntil policy ask clock s).2 = storeAfter ask s (n + 1) := by
  obtain ⟨made, waited, waits⟩ := exists_waits policy ask clock 0 s
  have recorded : attemptsOf policy ask clock s = made :=
    congrArg (fun done => done.2.2) (waits.recorded_result [])
  have counted := waits.counted s 0 rfl rfl
  rw [recorded, waitUntil, waits.result]
  simpa only [Nat.zero_add, List.range_eq_range'] using counted

/-! ## The numbers of the attempts -/

/-- The first attempt is number 0, and no later one is. -/
theorem attemptsOf_eq_cons (policy : RetryPolicy) (ask : Int32 → σ → Bool × σ) (clock : List Duration)
    (s : σ) : ∃ later, attemptsOf policy ask clock s = ⟨0, s⟩ :: later ∧ ∀ a ∈ later, a.number ≠ 0 := by
  obtain ⟨n, made, -⟩ := waitUntil_counted policy ask clock s
  refine ⟨(List.range n).map fun k => attemptAfter ask s (k + 1), ?_, fun a ha => ?_⟩
  · rw [made, List.range_succ_eq_map, List.map_cons, List.map_map]
    rfl
  · obtain ⟨k, -, rfl⟩ := List.mem_map.1 ha
    exact fun zero => Nat.succ_ne_zero k (attemptNumber_eq_zero_iff.1 zero)

theorem numbers_pairwise (policy : RetryPolicy) (ask : Int32 → σ → Bool × σ) (clock : List Duration)
    (s : σ) : ((attemptsOf policy ask clock s).map Attempt.number).Pairwise (· ≤ ·) := by
  obtain ⟨n, made, -⟩ := waitUntil_counted policy ask clock s
  rw [made, List.map_map, List.pairwise_map]
  exact List.pairwise_le_range.imp attemptNumber_le

end SharedVariables
