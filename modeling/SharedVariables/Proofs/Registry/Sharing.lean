import SharedVariables.Proofs.Registry.WellFormed

/-!
# What a request for a variable comes to

A request completes the first offer that suits it (`matchOrMake_completes`), or else becomes an offer in
the first free row (`matchOrMake_offers_anew`), or else fails and leaves everything as it is.
`Row.Suits` says what it takes that an offer suits a request; `matchOrMake_cases` tells the cases apart, and
`matchOrMake_does_one_thing` says when each of them is met.
-/

namespace SharedVariables

/-- Whether `i` is the first place for which `P` holds. -/
def IsFirst {n : Nat} (P : Fin n → Prop) (i : Fin n) : Prop := P i ∧ ∀ j < i, ¬P j

section First

variable {α : Type} {n : Nat} {table : Vector α n} {p : α → Bool} {P : Fin n → Prop}

theorem isFirst_of_first? (h : ∀ i, p (table.get i) = true ↔ P i) {i : Fin n}
    (hi : first? table p = some i) : IsFirst P i := by
  obtain ⟨here, before⟩ := first?_eq_some_iff.1 hi
  refine ⟨(h i).1 here, fun j hj hP => ?_⟩
  have nowhere := before j hj
  rw [(h j).2 hP] at nowhere
  cases nowhere

theorem not_exists_of_first? (h : ∀ i, p (table.get i) = true ↔ P i) (hn : first? table p = none) :
    ¬∃ i, P i := by
  rintro ⟨i, hP⟩
  have nowhere := first?_eq_none_iff.1 hn i
  rw [(h i).2 hP] at nowhere
  cases nowhere

end First

/-- Whether a row holds a pending offer that suits a request of `requester` to `addressee`: it has the
name that is asked for, it is the offer of somebody else, and it is meant for the requester. What is asked
of everybody must be addressed to the requester; what is asked of one processor must be offered by it, to
the requester or to everybody. -/
structure Row.Suits (row : Row) (name : Name) (addressee requester : ProcessorId) : Prop where
  offered : row.coupling = .offered
  named : row.name.Matches name
  foreign : row.offering.id ≠ requester
  general : addressee.IsGeneral → row.target = requester
  specific : ¬addressee.IsGeneral →
    row.offering.id = addressee ∧ (row.target.IsGeneral ∨ row.target = requester)

theorem Row.isCompletedBy_iff_suits {row : Row} {name : Name} {addressee requester : ProcessorId}
    (somebody : addressee.IsGeneral → ¬requester.IsGeneral) :
    row.isCompletedBy name addressee requester = true ↔ row.Suits name addressee requester := by
  rw [isCompletedBy_iff]
  constructor
  · rintro ⟨offered, named, meant⟩
    refine ⟨offered, named, canCouple_ne meant, fun general => ?_, fun specific => ?_⟩
    · exact (canCouple_target meant).resolve_left fun h => by
        simp only [canCouple, general, h, decide_true, Bool.not_true, Bool.false_and, ↓reduceIte,
          ite_self, Bool.false_eq_true] at meant
    · simp only [canCouple, if_neg (canCouple_ne meant), if_neg specific, Bool.and_eq_true,
        Bool.or_eq_true, decide_eq_true_eq] at meant
      exact meant
  · rintro ⟨offered, named, foreign, general, specific⟩
    refine ⟨offered, named, ?_⟩
    rw [canCouple, if_neg foreign]
    split
    · rename_i everybody
      rw [general everybody]
      simp only [somebody everybody, decide_false, Bool.not_false, decide_true, Bool.and_self]
    · rename_i one
      simpa only [Bool.and_eq_true, Bool.or_eq_true, decide_eq_true_eq] using specific one

namespace Registry

/-- The outcome of a request that completes an offer or makes one. -/
abbrev ShareOutcome := Outcome (Except OfferError (Key × Coupling))

/-- A request of `p` for `name` has completed the offer in the row at `i`, and done nothing else. -/
structure CompletedAt (r : Registry) (name : Name) (p : Partner) (i : RowIndex) (o : ShareOutcome) :
    Prop where
  value : o.value = .ok ((r.rows.get i).key, .coupled)
  key : (o.registry.rows.get i).key = (r.rows.get i).key
  coupling : (o.registry.rows.get i).coupling = .coupled
  accepting : (o.registry.rows.get i).accepting = .ofProcess p.id p.pid p.port
  /-- The partner that made the offer is marked, and is as it was otherwise. -/
  offering : (o.registry.rows.get i).offering = (r.rows.get i).offering.withEvent true
  adopts : (r.rows.get i).name.hasWildcard = true → name.hasWildcard = false →
    (o.registry.rows.get i).name = name
  keeps : ¬((r.rows.get i).name.hasWildcard = true ∧ name.hasWildcard = false) →
    (o.registry.rows.get i).name = (r.rows.get i).name
  becomesIdle : (r.rows.get i).state = .notShared → (o.registry.rows.get i).state = .idle
  keepsState : (r.rows.get i).state ≠ .notShared →
    (o.registry.rows.get i).stateCode = (r.rows.get i).stateCode
  others : ∀ j, j ≠ i → o.registry.rows.get j = r.rows.get j
  slots : o.registry.slots = (r.addToSlot (r.rows.get i).offering.id .offerMatched).slots
  seq : o.registry.seq = r.seq

/-- A request of `p` for `name` has become an offer to `addressee` in the row at `i`, and that is all. -/
structure OfferedAt (r : Registry) (name : Name) (addressee : ProcessorId) (p : Partner) (i : RowIndex)
    (o : ShareOutcome) : Prop where
  value : o.value = .ok ((o.registry.rows.get i).key, .offered)
  fresh : r.Untaken (o.registry.rows.get i).key
  coupling : (o.registry.rows.get i).coupling = .offered
  offering : (o.registry.rows.get i).offering = .ofProcess p.id p.pid p.port
  target : (o.registry.rows.get i).target = addressee
  named : (o.registry.rows.get i).name = name
  state : (o.registry.rows.get i).state = .notShared
  others : ∀ j, j ≠ i → o.registry.rows.get j = r.rows.get j
  slots : o.registry.slots = r.slots

variable {r : Registry} {name : Name} {addressee : ProcessorId} {p : Partner} {i : RowIndex}

theorem modifyRow_addToSlot_slots (f : Row → Row) (id : ProcessorId) (event : Event) :
    ((r.modifyRow i f).addToSlot id event).slots = (r.addToSlot id event).slots := by
  have same : (r.modifyRow i f).findSlot id = r.findSlot id := rfl
  simp only [addToSlot, same]
  split <;> rfl

theorem addToSlot_seq (id : ProcessorId) (event : Event) : (r.addToSlot id event).seq = r.seq := by
  simp only [addToSlot]
  split <;> rfl

/-- The offer that a request completes is the only row that changes, and the partner that made it the
only one whose slot does. -/
theorem matchOrMake_completes (present : p.Present)
    (found : r.findPending name addressee p.id = some i) :
    r.CompletedAt name p i (r.matchOrMake name addressee p) := by
  obtain ⟨value, rows⟩ := matchOrMake_of_pending present found
  have offered := (Row.isCompletedBy_iff.1 (first?_eq_some_iff.1 found).1).1
  have ho : (r.rows.get i).offering.Present := (Row.coupling_eq_offered_iff.1 offered).1
  have row : (r.matchOrMake name addressee p).registry.rows.get i =
      ((r.rows.get i).accept name p).markEvent .offering := by
    rw [rows, get_put, if_pos rfl]
  have registry : (r.matchOrMake name addressee p).registry =
      ((r.modifyRow i (·.accept name p)).modifyRow i (·.markEvent .offering)).addToSlot
        (r.rows.get i).offering.id .offerMatched := by
    have accepted : (r.modifyRow i (·.accept name p)).rows.get i = (r.rows.get i).accept name p :=
      modifyRow_self ..
    have ho' : (((r.rows.get i).accept name p).partner .offering).Present := ho
    simp only [matchOrMake, present, ↓reduceIte, matchPendingOffer, found, Outcome.andThen, unchanged,
      fireEvent, accepted, ho']
    rfl
  exact
    { value := value
      key := by rw [row]; rfl
      coupling := by rw [row]; exact Row.coupling_eq_coupled_iff.2 ⟨ho, present⟩
      accepting := by rw [row]; rfl
      offering := by rw [row]; rfl
      adopts := fun star none => by
        rw [row]
        exact if_pos ⟨star, by rw [none]; exact Bool.false_ne_true⟩
      keeps := fun h => by
        rw [row]
        exact if_neg fun stars => h ⟨stars.1, Bool.eq_false_of_not_eq_true stars.2⟩
      becomesIdle := fun h => by rw [row]; exact Row.state_of_code (if_pos h)
      keepsState := fun h => by rw [row]; exact if_neg h
      others := fun j hj => by rw [rows, get_put, if_neg (Ne.symm hj)]
      slots := by rw [registry, modifyRow_addToSlot_slots, modifyRow_addToSlot_slots]
      seq := by rw [registry, addToSlot_seq]; rfl }

/-- A request that nothing suits fills the first free row. -/
theorem matchOrMake_offers_anew (present : p.Present)
    (none : r.findPending name addressee p.id = none)
    (free : first? r.rows (fun row => row.Free) = some i) :
    r.OfferedAt name addressee p i (r.matchOrMake name addressee p) := by
  obtain ⟨key, told, untaken, value, rows⟩ : ∃ key told, r.Untaken key ∧
      (r.matchOrMake name addressee p).value = .ok (key, .offered) ∧
      (r.matchOrMake name addressee p).registry.rows =
        put r.rows i (.pending key name addressee p told) := matchOrMake_of_free present none free
  have row : (r.matchOrMake name addressee p).registry.rows.get i =
      .pending key name addressee p told := by
    rw [rows, get_put, if_pos rfl]
  have registry : (r.matchOrMake name addressee p).registry =
      (r.createOffer name addressee p).registry := by
    simp only [matchOrMake, present, ↓reduceIte, matchPendingOffer, none, Outcome.andThen, unchanged]
  obtain ⟨-, -, -, -, slots, -⟩ := createOffer_of_free name addressee present free
  exact
    { value := by rw [row]; exact value
      fresh := by rw [row]; exact untaken
      coupling := by
        rw [row]
        exact Row.coupling_eq_offered_iff.2 ⟨present, fun absent => absent.1 rfl⟩
      offering := by rw [row]; rfl
      target := by rw [row]; rfl
      named := by rw [row]; rfl
      state := by rw [row]; exact Row.state_of_code rfl
      others := fun j hj => by rw [rows, get_put, if_neg (Ne.symm hj)]
      slots := by rw [registry, slots] }

theorem matchOrMake_eq_of_full (present : p.Present)
    (none : r.findPending name addressee p.id = none)
    (full : first? r.rows (fun row => row.Free) = Option.none) :
    r.matchOrMake name addressee p = r.unchanged (.error .tableFull) := by
  simp only [matchOrMake, present, ↓reduceIte, matchPendingOffer, none, Outcome.andThen, unchanged,
    createOffer_of_full name addressee present full, Except.map, List.append_nil]

/-- The four ways in which a request can come out. -/
theorem matchOrMake_cases (r : Registry) (name : Name) (addressee : ProcessorId) (p : Partner) :
    let o := r.matchOrMake name addressee p
    let suits (i : RowIndex) : Prop := (r.rows.get i).Suits name addressee p.id
    let free (i : RowIndex) : Prop := (r.rows.get i).Free
    (p.Present ∧ ∃ i, IsFirst suits i ∧ r.CompletedAt name p i o) ∨
      (p.Present ∧ (¬∃ i, suits i) ∧ ∃ i, IsFirst free i ∧ r.OfferedAt name addressee p i o) ∨
      (p.Present ∧ (¬∃ i, suits i) ∧ (¬∃ i, free i) ∧ o = r.unchanged (.error .tableFull)) ∨
      (¬p.Present ∧ o = r.unchanged (.error (.invalidPartner p))) := by
  intro o suits free
  have isFree (i : RowIndex) : decide (r.rows.get i).Free = true ↔ free i := decide_eq_true_iff
  by_cases present : p.Present
  · have isSuiting (i : RowIndex) : (r.rows.get i).isCompletedBy name addressee p.id = true ↔ suits i :=
      Row.isCompletedBy_iff_suits fun _ => present.not_isGeneral
    cases found : r.findPending name addressee p.id with
    | some i =>
      exact .inl ⟨present, i, isFirst_of_first? isSuiting found, matchOrMake_completes present found⟩
    | none =>
      have nothing : ¬∃ i, suits i := not_exists_of_first? isSuiting found
      cases hfree : first? r.rows (fun row => row.Free) with
      | some i =>
        exact .inr (.inl ⟨present, nothing, i, isFirst_of_first? isFree hfree,
          matchOrMake_offers_anew present found hfree⟩)
      | none =>
        exact .inr (.inr (.inl ⟨present, nothing, not_exists_of_first? isFree hfree,
          matchOrMake_eq_of_full present found hfree⟩))
  · exact .inr (.inr (.inr ⟨present, if_neg present⟩))

/-- A request that some offer suits completes the first one that does. -/
theorem matchOrMake_of_suits (present : p.Present) (suits : (r.rows.get i).Suits name addressee p.id) :
    ∃ j, IsFirst (fun j => (r.rows.get j).Suits name addressee p.id) j ∧
      r.CompletedAt name p j (r.matchOrMake name addressee p) := by
  rcases matchOrMake_cases r name addressee p with ⟨-, j, first, done⟩ | ⟨-, nothing, -⟩ |
    ⟨-, nothing, -⟩ | ⟨absent, -⟩
  · exact ⟨j, first, done⟩
  · exact absurd ⟨i, suits⟩ nothing
  · exact absurd ⟨i, suits⟩ nothing
  · exact absurd present absent

/-- A request does one thing. If some offer suits it, it completes the first of them; otherwise, if some
row is free, it becomes an offer in the first of them, under a fresh key; otherwise it fails and changes
nothing, not even the counter for keys, and tells nobody. It fails for want of a partner just if there is
none, and for want of a row just if there is a partner, nothing suits and no row is free. -/
theorem matchOrMake_does_one_thing (r : Registry) (name : Name) (addressee : ProcessorId)
    (p : Partner) :
    let o := r.matchOrMake name addressee p
    let suits (i : RowIndex) : Prop := (r.rows.get i).Suits name addressee p.id
    let free (i : RowIndex) : Prop := (r.rows.get i).Free
    (p.Present → (∃ i, suits i) → ∃ i, IsFirst suits i ∧ r.CompletedAt name p i o) ∧
      (p.Present → (¬∃ i, suits i) → (∃ i, free i) →
        ∃ i, IsFirst free i ∧ r.OfferedAt name addressee p i o) ∧
      ((¬p.Present ∨ (¬∃ i, suits i) ∧ ¬∃ i, free i) → ∃ e, o = r.unchanged (.error e)) ∧
      (o.value = .error (.invalidPartner p) ↔ ¬p.Present) ∧
      (o.value = .error .tableFull ↔ p.Present ∧ (¬∃ i, suits i) ∧ ¬∃ i, free i) := by
  intro o suits free
  rcases matchOrMake_cases r name addressee p with ⟨present, i, first, done⟩ |
    ⟨present, nothing, i, first, done⟩ | ⟨present, nothing, full, failed⟩ | ⟨absent, failed⟩
  · have some : ∃ i, suits i := ⟨i, first.1⟩
    have value : o.value = _ := done.value
    simp only [value, reduceCtorEq, false_iff]
    refine ⟨fun _ _ => ⟨i, first, done⟩, fun _ no => absurd some no, ?_, not_not_intro present,
      fun h => h.2.1 some⟩
    rintro (absent | ⟨no, -⟩)
    · exact absurd present absent
    · exact absurd some no
  · have some : ∃ i, free i := ⟨i, first.1⟩
    have value : o.value = _ := done.value
    simp only [value, reduceCtorEq, false_iff]
    refine ⟨fun _ suiting => absurd suiting nothing, fun _ _ _ => ⟨i, first, done⟩, ?_,
      not_not_intro present, fun h => h.2.2 some⟩
    rintro (absent | ⟨-, no⟩)
    · exact absurd present absent
    · exact absurd some no
  · have value : o.value = .error .tableFull := congrArg Outcome.value failed
    simp only [value, Except.error.injEq, reduceCtorEq, false_iff, true_iff]
    exact ⟨fun _ suiting => absurd suiting nothing, fun _ _ some => absurd some full,
      fun _ => ⟨_, failed⟩, not_not_intro present, present, nothing, full⟩
  · have value : o.value = .error (.invalidPartner p) := congrArg Outcome.value failed
    simp only [value, Except.error.injEq, reduceCtorEq, false_iff, true_iff]
    exact ⟨fun h => absurd h absent, fun h => absurd h absent, fun _ => ⟨_, failed⟩, absent,
      fun h => absent h.1⟩

end Registry

end SharedVariables
