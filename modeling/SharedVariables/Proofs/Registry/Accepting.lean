import SharedVariables.Proofs.Registry.Sharing

/-!
# Accepting an offer

To accept an offer is to become the accepting side of its row. Whoever shares a variable or makes an offer
must be there, but nobody asks that of a partner that only accepts: an absent one is put on the accepting
side, and the partner that made the offer is told, without the two being coupled. `Registry.KeepsWord` says
what an acceptance promises, and `Registry.accepting_keepsWord_iff` when the promise is kept.
-/

namespace SharedVariables

/-- Whether a row holds an offer that a partner can accept, whether or not the partner is there. What is
asked of everybody by nobody in particular meets no offer. -/
def Row.IsMetBy (row : Row) (name : Name) (addressee requester : ProcessorId) : Prop :=
  row.Suits name addressee requester ∧ ¬(addressee.IsGeneral ∧ requester.IsGeneral)

/-- What is asked of everybody completes an offer to the requester itself only, and no such offer is made to
nobody in particular. -/
theorem Row.isCompletedBy_iff_isMetBy {row : Row} {name : Name} {addressee requester : ProcessorId} :
    row.isCompletedBy name addressee requester = true ↔ row.IsMetBy name addressee requester := by
  by_cases nobody : addressee.IsGeneral ∧ requester.IsGeneral
  · refine iff_of_false (fun completed => ?_) fun met => met.2 nobody
    have meant := (isCompletedBy_iff.1 completed).2.2
    simp only [canCouple, if_neg (canCouple_ne meant), if_pos nobody.1, Bool.and_eq_true,
      Bool.not_eq_true', decide_eq_false_iff_not, decide_eq_true_eq] at meant
    exact meant.1 (meant.2 ▸ nobody.2)
  · rw [isCompletedBy_iff_suits fun everybody somebody => nobody ⟨everybody, somebody⟩]
    exact (and_iff_left nobody).symm

/-- A row that is accepted is in some state. -/
theorem Row.state_accept_ne (row : Row) (name : Name) (p : Partner) :
    (row.accept name p).state ≠ .notShared := by
  by_cases fresh : row.state = .notShared
  · have idle : (row.accept name p).state = .idle := state_of_code (if_pos fresh)
    rw [idle]
    decide
  · have kept : (row.accept name p).stateCode = row.stateCode := if_neg fresh
    rwa [state, kept]

namespace Registry

/-- What an acceptance promises: the row that it returns is coupled with the partner that accepts, and a
partner that is not there gets no row and changes nothing. -/
structure KeepsWord (r : Registry) (name : Name) (addressee : ProcessorId) (p : Partner) : Prop where
  couples : ∀ i, (r.matchPendingOffer name addressee p).value = some i →
    ((r.matchPendingOffer name addressee p).registry.rows.get i).coupling = .coupled ∧
      ((r.matchPendingOffer name addressee p).registry.rows.get i).accepting =
        .ofProcess p.id p.pid p.port
  refuses : ¬p.Present → r.matchPendingOffer name addressee p = r.unchanged none

/-- What an acceptance comes to at the row that it returns. -/
structure AcceptedAt (r : Registry) (p : Partner) (i : RowIndex) (o : Outcome (Option RowIndex)) : Prop where
  accepting : (o.registry.rows.get i).accepting = .ofProcess p.id p.pid p.port
  /-- The row is coupled just if the partner is there; otherwise it is offered, as it was before. -/
  coupling : (o.registry.rows.get i).coupling = if p.Present then .coupled else .offered
  shared : (o.registry.rows.get i).state ≠ .notShared
  /-- The partner that made the offer is told, whoever accepts. -/
  told : notify (r.rows.get i).offering.port .offerMatched (r.rows.get i).key <:+ o.notices

variable {r : Registry} {name : Name} {addressee : ProcessorId} {p : Partner} {i : RowIndex}

theorem matchPendingOffer_of_none (none : r.findPending name addressee p.id = Option.none) :
    r.matchPendingOffer name addressee p = r.unchanged Option.none := by
  rw [matchPendingOffer, none]

theorem acceptedAt_of_pending (found : r.findPending name addressee p.id = some i) :
    r.AcceptedAt p i (r.matchPendingOffer name addressee p) := by
  obtain ⟨-, rows⟩ := matchPendingOffer_of_pending found
  have offered := (Row.isCompletedBy_iff.1 (first?_eq_some_iff.1 found).1).1
  have there : (r.rows.get i).offering.Present := (Row.coupling_eq_offered_iff.1 offered).1
  have row : (r.matchPendingOffer name addressee p).registry.rows.get i =
      ((r.rows.get i).accept name p).markEvent .offering := by
    rw [rows, get_put, if_pos rfl]
  exact
    { accepting := by rw [row]; rfl
      coupling := by
        rw [row]
        exact if_pos there
      shared := by
        rw [row]
        exact (r.rows.get i).state_accept_ne name p
      told := by
        rw [matchPendingOffer, found]
        exact List.suffix_append _ _ }

/-- Accepting returns the first row that the partner meets, and does nothing if there is none. -/
theorem matchPendingOffer_cases (r : Registry) (name : Name) (addressee : ProcessorId) (p : Partner) :
    let o := r.matchPendingOffer name addressee p
    let met (i : RowIndex) : Prop := (r.rows.get i).IsMetBy name addressee p.id
    (o = r.unchanged none ∧ ¬∃ i, met i) ∨ ∃ i, o.value = some i ∧ IsFirst met i ∧ r.AcceptedAt p i o := by
  intro o met
  have meets (i : RowIndex) : (r.rows.get i).isCompletedBy name addressee p.id = true ↔ met i :=
    Row.isCompletedBy_iff_isMetBy
  cases found : r.findPending name addressee p.id with
  | none => exact .inl ⟨matchPendingOffer_of_none found, not_exists_of_first? meets found⟩
  | some i =>
    exact .inr ⟨i, (matchPendingOffer_of_pending found).1, isFirst_of_first? meets found,
      acceptedAt_of_pending found⟩

theorem keepsWord_of_unchanged (nothing : r.matchPendingOffer name addressee p = r.unchanged none) :
    r.KeepsWord name addressee p where
  couples i found := by
    rw [nothing] at found
    cases found
  refuses _ := nothing

theorem keepsWord_iff_present (value : (r.matchPendingOffer name addressee p).value = some i)
    (done : r.AcceptedAt p i (r.matchPendingOffer name addressee p)) :
    r.KeepsWord name addressee p ↔ p.Present := by
  constructor
  · intro word
    by_contra absent
    rw [word.refuses absent] at value
    cases value
  · intro there
    refine ⟨fun j found => ?_, fun absent => absurd there absent⟩
    cases value.symm.trans found
    exact ⟨done.coupling.trans (if_pos there), done.accepting⟩

/-- An acceptance keeps its word just if the partner is there or meets no offer. If it meets one, it is put
on the accepting side of the first, which is coupled only if it is there; if it meets none, nothing happens.
A partner that is not there can neither share a variable nor make an offer. -/
theorem accepting_keepsWord_iff (r : Registry) (name : Name) (addressee : ProcessorId) (p : Partner) :
    let o := r.matchPendingOffer name addressee p
    let met (i : RowIndex) : Prop := (r.rows.get i).IsMetBy name addressee p.id
    (r.KeepsWord name addressee p ↔ p.Present ∨ ¬∃ i, met i) ∧
      ((∃ i, o.value = some i) ↔ ∃ i, met i) ∧
      (∀ i, o.value = some i → IsFirst met i ∧ r.AcceptedAt p i o) ∧
      (o.value = none → o = r.unchanged none) ∧
      (¬p.Present → r.matchOrMake name addressee p = r.unchanged (.error (.invalidPartner p)) ∧
        r.createOffer name addressee p = r.unchanged (.error (.invalidPartner p))) := by
  intro o met
  have refused (absent : ¬p.Present) :
      r.matchOrMake name addressee p = r.unchanged (.error (.invalidPartner p)) ∧
        r.createOffer name addressee p = r.unchanged (.error (.invalidPartner p)) :=
    ⟨if_neg absent, createOffer_of_absent name addressee absent⟩
  rcases matchPendingOffer_cases r name addressee p with ⟨nothing, nobody⟩ | ⟨i, value, first, done⟩
  · have value : o.value = none := congrArg Outcome.value nothing
    refine ⟨iff_of_true (keepsWord_of_unchanged nothing) (.inr nobody), iff_of_false ?_ nobody,
      fun i found => ?_, fun _ => nothing, refused⟩
    · rintro ⟨i, found⟩
      cases found.symm.trans value
    · cases found.symm.trans value
  · have value : o.value = some i := value
    have somebody : ∃ i, met i := ⟨i, first.1⟩
    refine ⟨?_, iff_of_true ⟨i, value⟩ somebody, fun j found => ?_, fun found => ?_, refused⟩
    · rw [keepsWord_iff_present value done, or_iff_left (not_not_intro somebody)]
    · cases value.symm.trans found
      exact ⟨first, done⟩
    · cases value.symm.trans found

/-- An offer to everybody, and what becomes of it when a partner accepts it and when one does that is only
named: the one is coupled, the other is not. -/
theorem accepting_keepsWord_iff_of_two :
    let name := Name.ofText "LEVEL"
    let r := empty.run [.matchOrMake name .general (.ofProcess (.single 1001) 10 5001)]
    let there := Partner.ofProcess (.single 1002) 20 5002
    let named := Partner.target (.single 1002)
    (r.matchPendingOffer name (.single 1001) there).value = some 0 ∧
      r.KeepsWord name (.single 1001) there ∧
      (r.matchPendingOffer name (.single 1001) named).value = some 0 ∧
      ((r.matchPendingOffer name (.single 1001) named).registry.rows.get 0).coupling = .offered ∧
      ¬named.Present ∧
      r.createOffer name (.single 1001) named = r.unchanged (.error (.invalidPartner named)) := by
  intro name r there named
  have found : (r.matchPendingOffer name (.single 1001) there).value = some 0 := by decide +kernel
  have found' : (r.matchPendingOffer name (.single 1001) named).value = some 0 := by decide +kernel
  have absent : ¬named.Present := by decide
  have kept := (accepting_keepsWord_iff r name (.single 1001) there).1
  obtain ⟨-, -, accepted, -, refused⟩ := accepting_keepsWord_iff r name (.single 1001) named
  exact ⟨found, kept.2 (.inl (by decide)), found', (accepted 0 found').2.coupling.trans (if_neg absent),
    absent, (refused absent).2⟩

/-- A partner that is only named takes an offer to everybody away from everybody else: the row is said to
be matched, and is an offer to the absent partner now, and the partner that made it is told that it was
accepted. -/
theorem accepting_breaks_its_word :
    let name := Name.ofText "LEVEL"
    let r := empty.run [.matchOrMake name .general (.ofProcess (.single 1001) 10 5001)]
    let named := Partner.target (.single 1002)
    let o := r.matchPendingOffer name (.single 1001) named
    o.value = some 0 ∧ (r.rows.get 0).target = .general ∧
      (o.registry.rows.get 0).target = .single 1002 ∧ (o.registry.rows.get 0).coupling = .offered ∧
      o.notices.length = 2 ∧ ¬r.KeepsWord name (.single 1001) named := by
  intro name r named o
  have value : o.value = some 0 := by decide +kernel
  have offered : (o.registry.rows.get 0).coupling = .offered := by decide +kernel
  refine ⟨value, by decide +kernel, by decide +kernel, offered, by decide +kernel, fun word => ?_⟩
  cases offered.symm.trans (word.couples 0 value).1

end Registry

end SharedVariables
