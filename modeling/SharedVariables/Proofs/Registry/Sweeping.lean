import Mathlib.Algebra.BigOperators.Fin
import SharedVariables.Proofs.Registry.Firing

/-!
# Sweeps

A sweep takes the partners that satisfy some property out of every row. `Row.countSides` says how many of
them a row has and `Row.ridOf` what the row is without them. A retract takes one of them out and so brings
the count down by one (`Sound.countSides_retracted`), whichever side the other partner is on afterwards; the
row is done when the count is 0.

`Sweeps` is the way through the table without a bound on how often a row is retracted from. In a well-formed
registry it comes to an end, and just as the bounded one does (`sweeps_iff`); what that leaves is said by
`sweep_rows`, what it counts by `sweep_value`, and the second time there is nothing to do (`sweep_again`).
`bulk_retracts_are_exact` says what this comes to for the retracts of a process and of a processor.
-/

namespace SharedVariables

open Finset

/-- 1 if a partner is present and satisfies `which`, 0 if not. -/
def Partner.tally (p : Partner) (which : Partner → Bool) : Nat :=
  if p.Present ∧ which p = true then 1 else 0

namespace Row

variable {row : Row} {which : Partner → Bool} {side : Side} {id : ProcessorId}

/-- How many partners of a row satisfy `which`. -/
def countSides (row : Row) (which : Partner → Bool) : Nat :=
  row.offering.tally which + row.accepting.tally which

/-- A row after all partners that satisfy `which` have left it. -/
def ridOf (row : Row) (which : Partner → Bool) : Row :=
  match row.sideWith which with
  | none => row
  | some side =>
    if (row.partner side.other).Present ∧ which (row.partner side.other) = false then
      row.retracted side
    else .empty

end Row

/-! ## How many partners there are -/

namespace Partner

variable {p : Partner} {which : Partner → Bool}

theorem tally_of (present : p.Present) (h : which p = true) : p.tally which = 1 := if_pos ⟨present, h⟩

theorem tally_of_absent (absent : ¬p.Present) : p.tally which = 0 := if_neg fun h => absent h.1

theorem tally_eq_zero_iff : p.tally which = 0 ↔ (p.Present → which p = false) := by
  simp only [tally, ite_eq_right_iff, Nat.one_ne_zero, imp_false, not_and, Bool.not_eq_true]

theorem tally_le (p : Partner) (which : Partner → Bool) : p.tally which ≤ 1 := by
  rw [tally]
  split <;> decide

theorem tally_of_bare {p' : Partner} (flags : ∀ p, which p = which p.bare) (h : p'.bare = p.bare) :
    p'.tally which = p.tally which := by
  have same : which p' = which p := by rw [flags, h, ← flags]
  have present : p'.Present ↔ p.Present := by rw [← present_bare, h, present_bare]
  simp only [tally, same, present]

end Partner

namespace Row

variable {row : Row} {which : Partner → Bool} {side : Side} {id : ProcessorId}

theorem countSides_eq (row : Row) (which : Partner → Bool) (side : Side) :
    row.countSides which = (row.partner side).tally which + (row.partner side.other).tally which := by
  cases side with
  | offering => rfl
  | accepting => exact Nat.add_comm ..

theorem countSides_le (row : Row) (which : Partner → Bool) : row.countSides which ≤ 2 :=
  Nat.add_le_add (Partner.tally_le ..) (Partner.tally_le ..)

theorem sideWith_eq_none_iff :
    row.sideWith which = none ↔
      ∀ side, (row.partner side).Present → which (row.partner side) = false := by
  rw [← Option.not_isSome_iff_eq_none, sideWith_isSome_iff]
  simp only [not_exists, not_and, Bool.not_eq_true]

theorem countSides_eq_zero_iff : row.countSides which = 0 ↔ row.sideWith which = none := by
  rw [sideWith_eq_none_iff, countSides, Nat.add_eq_zero_iff, Partner.tally_eq_zero_iff,
    Partner.tally_eq_zero_iff]
  exact ⟨fun h side => by cases side; exacts [h.1, h.2], fun h => ⟨h .offering, h .accepting⟩⟩

theorem countSides_of_sideWith (h : row.sideWith which = some side) :
    row.countSides which = 1 + (row.partner side.other).tally which := by
  obtain ⟨present, found⟩ := sideWith_eq_some h
  rw [countSides_eq row which side, Partner.tally_of present found]

theorem sideWith_empty (which : Partner → Bool) : empty.sideWith which = none :=
  sideWith_eq_none_iff.2 fun side present => absurd present (not_present_partner_empty side)

/-- A processor has one side of a sound row at most. -/
theorem Sound.countSides_id (h : row.Sound) (id : ProcessorId) :
    row.countSides (·.id = id) = if (row.sideOf id).isSome then 1 else 0 := by
  cases hs : row.sideOf id with
  | none => exact countSides_eq_zero_iff.2 hs
  | some side =>
    refine (countSides_of_sideWith hs).trans (congrArg (1 + ·) (Partner.tally_eq_zero_iff.2 ?_))
    refine fun present => decide_eq_false fun same => ?_
    have twice := h.sideOf_id present
    rw [same, hs] at twice
    cases side <;> cases twice

/-! ## A row without them -/

theorem ridOf_of_none (h : row.sideWith which = none) : row.ridOf which = row := by
  simp only [ridOf, h]

theorem ridOf_empty (which : Partner → Bool) : empty.ridOf which = empty :=
  ridOf_of_none (sideWith_empty which)

/-- What is left of a row when a partner leaves is nothing, or the other one, who offers. -/
theorem Sound.retracted_cases (h : row.Sound) (present : (row.partner side).Present) :
    (¬(row.partner side.other).Present ∧ row.retracted side = .empty) ∨
      ((row.partner side.other).Present ∧ row.coupling = .coupled ∧
        row.retracted side =
          { row with
            offering := (row.partner side.other).withEvent true
            accepting := .target (row.partner side).id
            stateCode := AccessState.notShared.code }) := by
  have used := h.not_free_of_present present
  by_cases other : (row.partner side.other).Present
  · have both := Registry.coupled_of_present present other
    exact .inr ⟨other, both, retracted_of_coupled both used side⟩
  · refine .inl ⟨other, ?_⟩
    cases hc : row.coupling with
    | none => exact absurd hc (h.coupling_ne_none used)
    | offered =>
      obtain rfl := side_of_offered hc present
      exact retracted_of_offered hc
    | coupled =>
      obtain ⟨ho, ha⟩ := coupling_eq_coupled_iff.1 hc
      cases side
      · exact absurd ha other
      · exact absurd ho other

/-- One retract takes out one partner. -/
theorem Sound.countSides_retracted (h : row.Sound) (flags : ∀ p, which p = which p.bare)
    (hs : row.sideWith which = some side) :
    (row.retracted side).countSides which + 1 = row.countSides which := by
  obtain ⟨present, -⟩ := sideWith_eq_some hs
  rw [countSides_of_sideWith hs, Nat.add_comm]
  refine congrArg (1 + ·) ?_
  rcases h.retracted_cases present with ⟨absent, gone⟩ | ⟨-, -, left⟩
  · rw [gone, countSides_eq_zero_iff.2 (sideWith_empty which), Partner.tally_of_absent absent]
  · rw [left, countSides, Partner.tally_of_absent (Partner.not_present_target _)]
    exact Partner.tally_of_bare flags (Partner.bare_withEvent ..)

theorem ridOf_of_all (hs : row.sideWith which = some side)
    (all : (row.partner side.other).Present → which (row.partner side.other) = true) :
    row.ridOf which = .empty := by
  simp only [ridOf, hs]
  refine if_neg fun ⟨present, stays⟩ => ?_
  rw [all present] at stays
  cases stays

theorem ridOf_of_one (hs : row.sideWith which = some side)
    (present : (row.partner side.other).Present) (other : which (row.partner side.other) = false) :
    row.ridOf which = row.retracted side := by
  simp only [ridOf, hs]
  exact if_pos ⟨present, other⟩

/-- Once one of them has left, the others still have to, and the row is as it should be after that. -/
theorem Sound.ridOf_retracted (h : row.Sound) (flags : ∀ p, which p = which p.bare)
    (hs : row.sideWith which = some side) : (row.retracted side).ridOf which = row.ridOf which := by
  obtain ⟨present, -⟩ := sideWith_eq_some hs
  rcases h.retracted_cases present with ⟨absent, gone⟩ | ⟨remains, -, left⟩
  · rw [gone, ridOf_empty, ridOf_of_all hs fun other => absurd other absent]
  have target : ¬((row.retracted side).partner .accepting).Present := by
    rw [left]
    exact Partner.not_present_target _
  have offering : (row.retracted side).offering = (row.partner side.other).withEvent true := by
    rw [left]
  have same : which (row.retracted side).offering = which (row.partner side.other) := by
    rw [offering, flags, Partner.bare_withEvent, ← flags]
  cases found : which (row.partner side.other) with
  | true =>
    have again : (row.retracted side).sideWith which = some .offering :=
      if_pos ⟨offering ▸ remains, same.trans found⟩
    rw [ridOf_of_all hs fun _ => found, ridOf_of_all again fun other => absurd other target]
  | false =>
    have none : (row.retracted side).sideWith which = none := by
      refine sideWith_eq_none_iff.2 fun side' present' => ?_
      cases side' with
      | offering => exact same.trans found
      | accepting => exact absurd present' target
    rw [ridOf_of_none none, ridOf_of_one hs remains found]

/-- Nobody has to leave a second time. -/
theorem Sound.sideWith_ridOf (h : row.Sound) (flags : ∀ p, which p = which p.bare) :
    (row.ridOf which).sideWith which = none := by
  cases hs : row.sideWith which with
  | none => rw [ridOf_of_none hs, hs]
  | some side =>
    have one := h.countSides_retracted flags hs
    rw [countSides_of_sideWith hs, Nat.add_comm, Nat.add_left_cancel_iff] at one
    by_cases stays : (row.partner side.other).Present ∧ which (row.partner side.other) = false
    · rw [ridOf_of_one hs stays.1 stays.2, ← countSides_eq_zero_iff, one]
      exact Partner.tally_eq_zero_iff.2 fun _ => stays.2
    · rw [ridOf_of_all hs fun present => by simpa only [present, true_and, Bool.not_eq_false] using stays,
        sideWith_empty]

end Row

/-! ## Going through the table -/

namespace Registry

variable {r : Registry} {leaving : Row → Option ProcessorId} {which : Partner → Bool} {bound : Nat}

/-- The way through the rows `rest` of a sweep that has come to the outcome `o` and ends with another one:
in each row the partner that `leaving` finds retracts, for as long as it finds one. -/
inductive Sweeps (leaving : Row → Option ProcessorId) :
    List RowIndex → Outcome Nat → Outcome Nat → Prop where
  | done (o) : Sweeps leaving [] o o
  | next {i rest o o'} (none : leaving (o.registry.rows.get i) = none)
      (later : Sweeps leaving rest o o') : Sweeps leaving (i :: rest) o o'
  | again {i rest o o' id} (found : leaving (o.registry.rows.get i) = some id)
      (later : Sweeps leaving (i :: rest)
        (o.andThen fun n r => (r.retract (r.rows.get i).key id).map fun _ => n + 1) o') :
      Sweeps leaving (i :: rest) o o'

/-- A sweep has one end at most. -/
theorem Sweeps.unique {rest : List RowIndex} {o o' o'' : Outcome Nat} (h : Sweeps leaving rest o o')
    (h' : Sweeps leaving rest o o'') : o' = o'' := by
  induction h with
  | done o =>
    cases h'
    rfl
  | next none later ih =>
    cases h' with
    | next _ later' => exact ih later'
    | again found _ =>
      rw [none] at found
      cases found
  | again found later ih =>
    cases h' with
    | next none _ =>
      rw [none] at found
      cases found
    | again found' later' =>
      rw [found] at found'
      cases found'
      exact ih later'

/-- Whether `leaving` finds the first partner that satisfies `which`, flags do not matter for that, and no row
has more than `bound` of them. -/
structure Searches (leaving : Row → Option ProcessorId) (which : Partner → Bool) (bound : Nat) : Prop where
  finds : Finds leaving
  first : FindsFirst leaving which
  flags : ∀ p, which p = which p.bare
  enough : ∀ row : Row, row.Sound → row.countSides which ≤ bound

theorem searches_leavingWithPid (pid : UInt32) : Searches (leavingWithPid pid) (·.pid = pid) 2 :=
  ⟨finds_leavingWithPid pid, findsFirst_leavingWithPid pid, fun _ => rfl, fun row _ => row.countSides_le _⟩

theorem searches_leavingDead (alive : UInt32 → Bool) :
    Searches (leavingDead alive) (!alive ·.pid) 2 :=
  ⟨finds_leavingDead alive, findsFirst_leavingDead alive, fun _ => rfl, fun row _ => row.countSides_le _⟩

theorem searches_sideOf (id : ProcessorId) :
    Searches (fun row => (row.sideOf id).map fun _ => id) (·.id = id) 1 where
  finds := finds_sideOf id
  first := findsFirst_sideOf id
  flags _ := rfl
  enough row sound := by
    rw [sound.countSides_id]
    split <;> decide

/-- Nobody is found in a row just if nobody there satisfies `which`. -/
theorem Searches.eq_none_iff (s : Searches leaving which bound) {row : Row} (h : row.Sound) :
    leaving row = none ↔ row.sideWith which = none := by
  rw [s.first row h, Option.map_eq_none_iff]

/-- At its turn, a row is retracted from once for each partner that has to leave, and is then without
them. -/
theorem retractWhile_done (s : Searches leaving which bound) (h : r.WellFormed) {i : RowIndex} {fuel : Nat}
    (enough : (r.rows.get i).countSides which ≤ fuel) :
    (retractWhile leaving i fuel r).value = (r.rows.get i).countSides which ∧
      (retractWhile leaving i fuel r).registry.rows = put r.rows i ((r.rows.get i).ridOf which) := by
  induction fuel generalizing r with
  | zero =>
    have zero := Nat.le_zero.1 enough
    rw [Row.ridOf_of_none (Row.countSides_eq_zero_iff.1 zero), put_get]
    exact ⟨zero.symm, rfl⟩
  | succ fuel ih =>
    have sound := h.rows.sound i
    rw [retractWhile, s.first _ sound]
    cases hs : (r.rows.get i).sideWith which with
    | none =>
      rw [Row.ridOf_of_none hs, put_get]
      exact ⟨(Row.countSides_eq_zero_iff.2 hs).symm, rfl⟩
    | some side =>
      obtain ⟨present, -⟩ := Row.sideWith_eq_some hs
      have fewer := sound.countSides_retracted s.flags hs
      have later := h.retract (r.rows.get i).key ((r.rows.get i).partner side).id
      have rows : (r.retract (r.rows.get i).key ((r.rows.get i).partner side).id).registry.rows =
          put r.rows i ((r.rows.get i).retracted side) := by
        rw [retract_of_present h present]
        exact retractSide_rows side
      have row : (r.retract (r.rows.get i).key ((r.rows.get i).partner side).id).registry.rows.get i =
          (r.rows.get i).retracted side := by
        rw [rows, get_put, if_pos rfl]
      obtain ⟨value, rest⟩ := ih
        (r := (r.retract (r.rows.get i).key ((r.rows.get i).partner side).id).registry) later
        (by rw [row]; omega)
      rw [row] at value rest
      rw [rows, put_put, sound.ridOf_retracted s.flags hs] at rest
      exact ⟨(congrArg (· + 1) value).trans fewer, rest⟩

theorem andThen_unchanged (o : Outcome Nat) :
    (o.andThen fun n r => (r.unchanged 0).map (n + ·)) = o := by
  simp only [Outcome.andThen, Outcome.map, unchanged, Nat.add_zero, List.append_nil]

theorem retractWhile_of_none {i : RowIndex} (none : leaving (r.rows.get i) = none) (fuel : Nat) :
    retractWhile leaving i fuel r = r.unchanged 0 := by
  cases fuel with
  | zero => rfl
  | succ fuel => rw [retractWhile, none]

/-- The first of several retracts from a row may be counted on its own. -/
theorem andThen_retractWhile {i : RowIndex} {id : ProcessorId} {o : Outcome Nat}
    (found : leaving (o.registry.rows.get i) = some id) (fuel : Nat) :
    (o.andThen fun n r => (retractWhile leaving i (fuel + 1) r).map (n + ·)) =
      (o.andThen fun n r => (r.retract (r.rows.get i).key id).map fun _ => n + 1).andThen
        fun n r => (retractWhile leaving i fuel r).map (n + ·) := by
  simp only [retractWhile, found, Outcome.andThen, Outcome.map, List.append_assoc, Nat.add_assoc,
    Nat.add_comm 1]

/-- As many retracts as partners have to leave bring a row to its end. -/
theorem Sweeps.turn (s : Searches leaving which bound) {i : RowIndex} {rest : List RowIndex} {fuel : Nat}
    {o o' : Outcome Nat} (h : o.registry.WellFormed)
    (enough : (o.registry.rows.get i).countSides which ≤ fuel)
    (later : Sweeps leaving rest (o.andThen fun n r => (retractWhile leaving i fuel r).map (n + ·)) o') :
    Sweeps leaving (i :: rest) o o' := by
  induction fuel generalizing o with
  | zero =>
    have none := Row.countSides_eq_zero_iff.1 (Nat.le_zero.1 enough)
    exact .next ((s.eq_none_iff (h.rows.sound i)).2 none) (andThen_unchanged o ▸ later)
  | succ fuel ih =>
    cases found : leaving (o.registry.rows.get i) with
    | none =>
      simp only [Outcome.andThen, retractWhile_of_none found] at later
      exact .next found (andThen_unchanged o ▸ later)
    | some id =>
      refine .again found (ih (h.retract _ id) ?_ (andThen_retractWhile found fuel ▸ later))
      have sound := h.rows.sound i
      rw [s.first _ sound] at found
      obtain ⟨side, hs, rfl⟩ := Option.map_eq_some_iff.1 found
      have fewer := sound.countSides_retracted s.flags hs
      have row : (o.registry.retract (o.registry.rows.get i).key
          ((o.registry.rows.get i).partner side).id).registry.rows.get i =
          (o.registry.rows.get i).retracted side :=
        (retract_row h (Row.sideWith_eq_some hs).1 i).trans (if_pos rfl)
      simp only [Outcome.andThen, Outcome.map, row]
      omega

/-- A sweep of a well-formed registry comes to an end, and to no other than the bounded one: whatever the
rest of the way comes to, the whole way comes to. -/
theorem sweeps_iff (s : Searches leaving which bound) (h : r.WellFormed) {o : Outcome Nat} :
    Sweeps leaving (List.finRange rowCapacity) (r.unchanged 0) o ↔
      o = sumRows (fun i => retractWhile leaving i bound) r := by
  have ends : Sweeps leaving (List.finRange rowCapacity) (r.unchanged 0)
      (sumRows (fun i => retractWhile leaving i bound) r) := by
    let M (rest : List RowIndex) (o : Outcome Nat) : Prop :=
      ∀ o', Sweeps leaving rest o o' → Sweeps leaving (List.finRange rowCapacity) (r.unchanged 0) o'
    have all : M [] (sumRows (fun i => retractWhile leaving i bound) r) := by
      refine sweep_induction s.finds bound h (fun _ whole => whole) fun i rest o _ ho _ before => ?_
      exact fun o' later => before o' (.turn s ho (s.enough _ (ho.rows.sound i)) later)
    exact all _ (.done _)
  exact ⟨fun ended => ended.unique ends, fun same => same ▸ ends⟩

/-- A sweep makes of every row what it is without those who have to leave. -/
theorem sweep_rows (s : Searches leaving which bound) (h : r.WellFormed) :
    (sumRows (fun i => retractWhile leaving i bound) r).registry.rows = r.rows.map (·.ridOf which) := by
  refine ext_get fun j => ?_
  rw [get_map]
  refine sumRows_row (P := WellFormed) (f := fun row row' => row' = row.ridOf which)
    (fun i r h => ?_) (fun i j r h hij => ?_) (fun i r h => ?_) h j
  · exact h.retractWhile leaving i bound
  · exact retractWhile_frame s.finds bound h hij
  · rw [(retractWhile_done s h (s.enough _ (h.rows.sound i))).2, get_put, if_pos rfl]

/-- A sweep counts all who have to leave: on the way, those in the rows that are still to come have not been
counted yet. -/
theorem sweep_value (s : Searches leaving which bound) (h : r.WellFormed) :
    (sumRows (fun i => retractWhile leaving i bound) r).value =
      ∑ i : RowIndex, (r.rows.get i).countSides which := by
  let M (rest : List RowIndex) (o : Outcome Nat) : Prop :=
    o.value + (rest.map fun j => (r.rows.get j).countSides which).sum =
      ∑ i : RowIndex, (r.rows.get i).countSides which
  have all : M [] (sumRows (fun i => retractWhile leaving i bound) r) := by
    refine sweep_induction s.finds bound h ?_ fun i rest o _ ho waiting counted => ?_
    · simp only [M, Fin.sum_univ_def]
      exact Nat.zero_add _
    · obtain ⟨value, -⟩ := retractWhile_done s ho (s.enough _ (ho.rows.sound i))
      rw [waiting] at value
      simp only [M, List.map_cons, List.sum_cons] at counted ⊢
      rw [← counted, ← Nat.add_assoc, ← value]
      rfl
  simpa only [M, List.map_nil, List.sum_nil, Nat.add_zero] using all

/-- If nobody is found to leave any row, a sweep does nothing. -/
theorem sweep_idle (fuel : Nat) (none : ∀ i : RowIndex, leaving (r.rows.get i) = none) :
    sumRows (fun i => retractWhile leaving i fuel) r = r.unchanged 0 := by
  refine sumRows_induction (M := fun _ o => o = r.unchanged 0) rfl ?_
  rintro i rest o - rfl
  simp only [Outcome.andThen, unchanged, retractWhile_of_none (none i), Outcome.map, List.append_nil]

/-- A sweep has done everything the first time. -/
theorem sweep_again (s : Searches leaving which bound) (h : r.WellFormed) :
    let swept := (sumRows (fun i => retractWhile leaving i bound) r).registry
    sumRows (fun i => retractWhile leaving i bound) swept = swept.unchanged 0 := by
  refine sweep_idle bound fun i => ?_
  rw [s.eq_none_iff ((h.sweep leaving bound).rows.sound i), sweep_rows s h, get_map]
  exact (h.rows.sound i).sideWith_ridOf s.flags

/-- Whether the rows of `r'` are those of `r` without the partners that satisfy `which`: there are none of
them left, and the rows that had none are as they were. -/
structure RidOf (r : Registry) (which : Partner → Bool) (r' : Registry) : Prop where
  gone : ∀ (i : RowIndex) (side : Side), ((r'.rows.get i).partner side).Present →
    which ((r'.rows.get i).partner side) = false
  others : ∀ i : RowIndex, (∀ side, ((r.rows.get i).partner side).Present →
    which ((r.rows.get i).partner side) = false) → r'.rows.get i = r.rows.get i

theorem sweep_ridOf (s : Searches leaving which bound) (h : r.WellFormed) :
    r.RidOf which (sumRows (fun i => retractWhile leaving i bound) r).registry where
  gone i := by
    rw [sweep_rows s h, get_map]
    exact Row.sideWith_eq_none_iff.1 ((h.rows.sound i).sideWith_ridOf s.flags)
  others i none := by
    rw [sweep_rows s h, get_map, Row.ridOf_of_none (Row.sideWith_eq_none_iff.2 none)]

/-! ## The retracts of a process and of a processor -/

/-- The retracts of a process come to an end, without a bound on how often a row is looked at. They count
every side that the process had, leave none of them, and leave the rows in which it had none as they were.
The retracts of a processor count the rows in which it had a side, and leave the same. The second time
neither does anything. -/
theorem bulk_retracts_are_exact (h : r.Reachable) (pid : UInt32) (id : ProcessorId) :
    let all := r.retractAllOf pid
    let own := r.retractAllBy id
    (all.value = ∑ i : RowIndex, (r.rows.get i).countSides (·.pid = pid) ∧
      (∀ o, Sweeps (leavingWithPid pid) (List.finRange rowCapacity) (r.unchanged 0) o ↔ o = all) ∧
      r.RidOf (·.pid = pid) all.registry ∧
      all.registry.retractAllOf pid = all.registry.unchanged 0) ∧
    own.value = #{i : RowIndex | ((r.rows.get i).sideOf id).isSome} ∧
      r.RidOf (·.id = id) own.registry ∧
      own.registry.retractAllBy id = own.registry.unchanged 0 := by
  have well := h.wellFormed
  constructor
  · have s := searches_leavingWithPid pid
    exact ⟨sweep_value s well, fun _ => sweeps_iff s well, sweep_ridOf s well, sweep_again s well⟩
  · have s := searches_sideOf id
    refine ⟨?_, sweep_ridOf s well, sweep_again s well⟩
    rw [card_filter]
    refine (sweep_value s well).trans (sum_congr rfl fun i _ => ?_)
    exact (well.rows.sound i).countSides_id id

/-- Two processors of one process that share a variable are taken out of it one after the other. -/
theorem bulk_retracts_are_exact_of_one_process :
    let a := Partner.ofProcess (.single 1001) 10 0
    let b := Partner.ofProcess (.single 1002) 10 0
    let name := Name.ofText "LEVEL"
    let r := empty.run [.matchOrMake name .general a, .matchOrMake name a.id b]
    (r.rows.get 0).coupling = .coupled ∧ (r.retractAllOf 10).value = 2 ∧
      r.RidOf (·.pid = 10) (r.retractAllOf 10).registry ∧ (r.retractAllBy b.id).value = 1 := by
  intro a b name r
  obtain ⟨⟨all, -, rid, -⟩, own, -⟩ := bulk_retracts_are_exact (r := r) ⟨_, rfl⟩ 10 b.id
  exact ⟨by decide +kernel, all.trans (by decide +kernel), rid, own.trans (by decide +kernel)⟩

end Registry

end SharedVariables
