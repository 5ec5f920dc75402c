import SharedVariables.Proofs.Registry.Convergence
import SharedVariables.Proofs.Registry.Sharing
import SharedVariables.Proofs.Registry.Table

/-!
# What the directory says about pending offers

The directory is asked with plain numbers, and it lists an offer by the numbers of the processor that has
made it and of the one that it is addressed to (`mem_offeredVariables_iff`, `mem_offeringProcessors_iff`).
Whether an offer can be accepted depends on more: on the whole identity that it is addressed to, and on
who has made it, since nobody completes an offer of their own. `Row.IsOpenTo` puts these conditions
together. An offer that meets them suits the request that names its offerer (`Row.IsOpenTo.suits`), so
that this request is sure to couple, with the first offer that suits it
(`advertised_offers_can_be_accepted`). An offer that a processor has made to itself (`Row.IsOwnOffer`) suits
none of its requests, so they leave it as it is (`matchOrMake_of_not_suits`).
-/

namespace SharedVariables

namespace Row

/-- Whether a row holds a pending offer of a processor numbered `offering` to one numbered `addressee`. -/
structure IsOffer (row : Row) (offering addressee : ProcessorNumber) : Prop where
  offered : row.coupling = .offered
  offering : row.offering.id.proc = offering
  addressed : row.target.proc = addressee

/-- Whether a row holds a pending offer that somebody else has made to the processor `me`. -/
structure IsOpenTo (row : Row) (me : ProcessorId) : Prop where
  offered : row.coupling = .offered
  addressed : row.target = me
  foreign : row.offering.id ≠ me

/-- Whether a row holds a pending offer that the processor `me` has made to itself. -/
structure IsOwnOffer (row : Row) (me : ProcessorId) : Prop where
  offered : row.coupling = .offered
  addressed : row.target = me
  own : row.offering.id = me

theorem IsOpenTo.isOffer {row : Row} {me : ProcessorId} (h : row.IsOpenTo me) :
    row.IsOffer row.offering.id.proc me.proc :=
  ⟨h.offered, rfl, congrArg ProcessorId.proc h.addressed⟩

theorem IsOwnOffer.isOffer {row : Row} {me : ProcessorId} (h : row.IsOwnOffer me) :
    row.IsOffer me.proc me.proc :=
  ⟨h.offered, congrArg ProcessorId.proc h.own, congrArg ProcessorId.proc h.addressed⟩

/-- Nobody completes an offer of their own. -/
theorem IsOwnOffer.not_suits {row : Row} {me : ProcessorId} (h : row.IsOwnOffer me) (name : Name)
    (addressee : ProcessorId) : ¬row.Suits name addressee me := fun suits => suits.foreign h.own

/-- An offer to `me` suits what `me` asks of everybody, and what it asks of the offerer. -/
theorem IsOpenTo.suits {row : Row} {me addressee : ProcessorId} (h : row.IsOpenTo me)
    (asked : addressee.IsGeneral ∨ addressee = row.offering.id) : row.Suits row.name addressee me where
  offered := h.offered
  named := row.name.matches_self
  foreign := h.foreign
  general _ := h.addressed
  specific one := ⟨(asked.resolve_left one).symm, .inr h.addressed⟩

end Row

namespace Registry

variable {r : Registry} {name : Name} {p : Partner} {addressee offering : ProcessorNumber}

/-! ## The two listings -/

theorem WellFormed.mem_offersTo_iff (h : r.WellFormed) {row : Row} :
    row ∈ r.offersTo addressee ↔
      ∃ i, r.rows.get i = row ∧ row.coupling = .offered ∧ row.target.proc = addressee := by
  simp only [offersTo, usedRows, toList_eq_map, List.mem_filter, List.mem_map, List.mem_finRange,
    true_and, Bool.not_eq_eq_eq_not, Bool.not_true, decide_eq_false_iff_not, decide_eq_true_eq]
  constructor
  · rintro ⟨⟨⟨i, rfl⟩, -⟩, offer⟩
    exact ⟨i, rfl, offer⟩
  · rintro ⟨i, rfl, offer⟩
    exact ⟨⟨⟨i, rfl⟩, (h.rows.sound i).not_free_of_coupling (offer.1.trans_ne nofun)⟩, offer⟩

theorem WellFormed.mem_offeredVariables_iff (h : r.WellFormed) :
    name ∈ r.offeredVariables addressee offering ↔
      ∃ i, (r.rows.get i).IsOffer offering addressee ∧ (r.rows.get i).name = name := by
  simp only [offeredVariables, List.mem_map, List.mem_filter, h.mem_offersTo_iff, decide_eq_true_eq]
  constructor
  · rintro ⟨_, ⟨⟨i, rfl, offered, addressed⟩, made⟩, rfl⟩
    exact ⟨i, ⟨offered, made, addressed⟩, rfl⟩
  · rintro ⟨i, ⟨offered, made, addressed⟩, rfl⟩
    exact ⟨_, ⟨⟨i, rfl, offered, addressed⟩, made⟩, rfl⟩

section OneEach

variable {procs : List ProcessorNumber} {proc : ProcessorNumber}

/-- Collecting numbers without repetition loses none and adds none. -/
theorem mem_foldl_insert_iff (found : List ProcessorNumber) :
    proc ∈ procs.foldl (fun procs proc => if proc ∈ procs then procs else procs ++ [proc]) found ↔
      proc ∈ found ∨ proc ∈ procs := by
  induction procs generalizing found with
  | nil => simp only [List.foldl_nil, List.not_mem_nil, or_false]
  | cons first procs ih =>
    rw [List.foldl_cons, ih]
    split
    · rename_i known
      constructor
      · exact Or.imp_right (List.mem_cons_of_mem _)
      · rintro (old | new)
        · exact .inl old
        · rcases List.mem_cons.1 new with rfl | later
          · exact .inl known
          · exact .inr later
    · simp only [List.mem_append, List.mem_cons, List.not_mem_nil, or_false, or_assoc]

theorem foldl_insert_nodup (procs : List ProcessorNumber) {found : List ProcessorNumber}
    (once : found.Nodup) :
    (procs.foldl (fun procs proc => if proc ∈ procs then procs else procs ++ [proc]) found).Nodup := by
  induction procs generalizing found with
  | nil => exact once
  | cons first procs ih =>
    rw [List.foldl_cons]
    split
    · exact ih once
    · rename_i new
      exact ih (List.nodup_append.2 ⟨once, List.nodup_singleton _, fun a old b hb same =>
        new (List.mem_singleton.1 hb ▸ same ▸ old)⟩)

end OneEach

/-- A processor number is listed just if something is listed that processors of that number offer. -/
theorem mem_offeringProcessors_iff :
    offering ∈ r.offeringProcessors addressee ↔ ∃ name, name ∈ r.offeredVariables addressee offering := by
  simp only [offeringProcessors, mem_foldl_insert_iff, List.not_mem_nil, false_or, offeredVariables,
    List.mem_map, List.mem_filter, decide_eq_true_eq]
  constructor
  · rintro ⟨row, listed, made⟩
    exact ⟨row.name, row, ⟨listed, made⟩, rfl⟩
  · rintro ⟨_, row, ⟨listed, made⟩, rfl⟩
    exact ⟨row, listed, made⟩

theorem offeringProcessors_nodup (r : Registry) (addressee : ProcessorNumber) :
    (r.offeringProcessors addressee).Nodup := foldl_insert_nodup _ List.nodup_nil

/-! ## Accepting what is listed -/

/-- A request couples only with an offer that suits it. -/
theorem exists_suits_of_coupled {id : ProcessorId} {key : Key}
    (h : (r.matchOrMake name id p).value = .ok (key, .coupled)) :
    ∃ i, (r.rows.get i).Suits name id p.id := by
  rcases matchOrMake_cases r name id p with ⟨-, i, first, -⟩ | ⟨-, -, i, -, made⟩ |
    ⟨-, -, -, failed⟩ | ⟨-, failed⟩
  · exact ⟨i, first.1⟩
  · rw [made.value] at h
    cases h
  · rw [failed] at h
    cases h
  · rw [failed] at h
    cases h

/-- A request leaves a variable as it is that does not suit it, and it is not coupled with that. -/
theorem matchOrMake_of_not_suits (h : r.WellFormed) {i : RowIndex} (used : ¬(r.rows.get i).Free)
    {id : ProcessorId} (unsuited : ¬(r.rows.get i).Suits name id p.id) :
    (r.matchOrMake name id p).value ≠ .ok ((r.rows.get i).key, .coupled) ∧
      (r.matchOrMake name id p).registry.rows.get i = r.rows.get i := by
  rcases matchOrMake_cases r name id p with ⟨-, j, first, done⟩ | ⟨-, -, j, free, made⟩ |
    ⟨-, -, -, failed⟩ | ⟨-, failed⟩
  · have other : i ≠ j := fun same => unsuited (same ▸ first.1)
    refine ⟨fun coupled => other ?_, done.others i other⟩
    rw [done.value, Except.ok.injEq, Prod.mk.injEq] at coupled
    exact h.rows.keys i j used coupled.1.symm
  · have other : i ≠ j := fun same => used (same ▸ free.1)
    refine ⟨?_, made.others i other⟩
    rw [made.value]
    simp
  · rw [failed]
    exact ⟨nofun, rfl⟩
  · rw [failed]
    exact ⟨nofun, rfl⟩

/-- The directory lists for `me` the pending offers to processors of its number, each under its name and
the number of its offerer, and each offerer once. What somebody else has offered to `me` itself is among
them, and `me` can accept it: if it asks the offerer for the variable, or everybody, it is coupled, with
the first offer that suits the request. What `me` has offered to itself is among them, too, but whatever
`me` asks for, it is not coupled with that offer, which stays as it is. -/
theorem advertised_offers_can_be_accepted (h : r.Reachable) {me : Partner} (present : me.Present) :
    (∀ q name, name ∈ r.offeredVariables me.id.proc q ↔
        ∃ i, (r.rows.get i).IsOffer q me.id.proc ∧ (r.rows.get i).name = name) ∧
      (∀ q, q ∈ r.offeringProcessors me.id.proc ↔
        ∃ name, name ∈ r.offeredVariables me.id.proc q) ∧
      (r.offeringProcessors me.id.proc).Nodup ∧
      (∀ i, (r.rows.get i).IsOpenTo me.id →
        (r.rows.get i).name ∈ r.offeredVariables me.id.proc (r.rows.get i).offering.id.proc ∧
        ∀ addressee, addressee.IsGeneral ∨ addressee = (r.rows.get i).offering.id →
          ∃ j, IsFirst (fun j => (r.rows.get j).Suits (r.rows.get i).name addressee me.id) j ∧
            (r.matchOrMake (r.rows.get i).name addressee me).value =
              .ok ((r.rows.get j).key, .coupled)) ∧
      ∀ i, (r.rows.get i).IsOwnOffer me.id →
        (r.rows.get i).name ∈ r.offeredVariables me.id.proc me.id.proc ∧
        ∀ name addressee,
          (r.matchOrMake name addressee me).value ≠ .ok ((r.rows.get i).key, .coupled) ∧
            (r.matchOrMake name addressee me).registry.rows.get i = r.rows.get i := by
  have wellFormed := h.wellFormed
  have listed (q : ProcessorNumber) (name : Name) : name ∈ r.offeredVariables me.id.proc q ↔
      ∃ i, (r.rows.get i).IsOffer q me.id.proc ∧ (r.rows.get i).name = name :=
    wellFormed.mem_offeredVariables_iff
  refine ⟨listed, fun q => mem_offeringProcessors_iff, r.offeringProcessors_nodup _,
    fun i isOpen => ?_, fun i own => ?_⟩
  · refine ⟨(listed _ _).2 ⟨i, isOpen.isOffer, rfl⟩, fun addressee asked => ?_⟩
    obtain ⟨j, first, done⟩ := matchOrMake_of_suits present (isOpen.suits asked)
    exact ⟨j, first, done.value⟩
  · have used := (wellFormed.rows.sound i).not_free_of_coupling (own.offered.trans_ne nofun)
    exact ⟨(listed _ _).2 ⟨i, own.isOffer, rfl⟩,
      fun name addressee => matchOrMake_of_not_suits wellFormed used (own.not_suits name addressee)⟩

/-- A processor with a parent has made an offer to itself, and another one has made it a second offer: it
is told of both, and can accept the second one. -/
theorem advertised_offers_can_be_accepted_of_child :
    let a := Partner.ofProcess (.single 1001) 10 0
    let b := Partner.ofProcess ⟨1002, 7, 0⟩ 20 0
    let name := Name.ofText "LEVEL"
    let r := empty.run [.matchOrMake name b.id b, .matchOrMake name b.id a]
    r.Reachable ∧ b.Present ∧ (r.rows.get 0).IsOwnOffer b.id ∧ (r.rows.get 1).IsOpenTo b.id ∧
      name ∈ r.offeredVariables 1002 1002 ∧ name ∈ r.offeredVariables 1002 1001 ∧
      1001 ∈ r.offeringProcessors 1002 ∧
      (r.matchOrMake name .general b).value = .ok ((r.rows.get 1).key, .coupled) ∧
      (r.matchOrMake name .general b).registry.rows.get 0 = r.rows.get 0 := by
  intro a b name r
  have present : b.Present := by decide
  have isOwn : (r.rows.get 0).IsOwnOffer b.id :=
    ⟨by decide +kernel, by decide +kernel, by decide +kernel⟩
  have isOpen : (r.rows.get 1).IsOpenTo b.id :=
    ⟨by decide +kernel, by decide +kernel, by decide +kernel⟩
  have names : (r.rows.get 0).name = name ∧ (r.rows.get 1).name = name := by decide +kernel
  have offerer : (r.rows.get 1).offering.id.proc = 1001 := by decide +kernel
  have offers : ∀ j, (r.rows.get j).coupling = .offered → j = 0 ∨ j = 1 := by decide +kernel
  obtain ⟨-, processors, -, acceptable, own⟩ := advertised_offers_can_be_accepted (r := r)
    ⟨[.matchOrMake name b.id b, .matchOrMake name b.id a], rfl⟩ present
  obtain ⟨ownListed, stays⟩ := own 0 isOwn
  obtain ⟨listed, accepts⟩ := acceptable 1 isOpen
  rw [names.1] at ownListed
  rw [names.2, offerer] at listed
  obtain ⟨j, first, coupled⟩ := accepts .general (.inl rfl)
  rw [names.2] at coupled
  obtain rfl : j = 1 :=
    (offers j first.1.offered).resolve_left fun here => first.1.foreign (here ▸ isOwn.own)
  exact ⟨⟨_, rfl⟩, present, isOwn, isOpen, ownListed, listed, (processors 1001).2 ⟨_, listed⟩,
    coupled, (stays name .general).2⟩

/-- What is listed need not be acceptable. A processor's offer to itself is listed for it, and an offer to
a processor with a parent is listed for the one of the same number without a parent; neither can accept
what is listed for it. -/
theorem own_and_foreign_offers_are_advertised :
    let name := Name.ofText "LEVEL"
    let a := Partner.ofProcess (.single 1001) 10 0
    let b := Partner.ofProcess (.single 1002) 20 0
    let own := empty.run [.matchOrMake name b.id b]
    let foreign := empty.run [.matchOrMake name ⟨1002, 7, 0⟩ a]
    (own.Reachable ∧ b.Present ∧ name ∈ own.offeredVariables b.id.proc 1002 ∧
        ¬∃ o : ProcessorId, o.proc = 1002 ∧
          ∃ key, (own.matchOrMake name o b).value = .ok (key, .coupled)) ∧
      foreign.Reachable ∧ name ∈ foreign.offeredVariables b.id.proc 1001 ∧
        ¬∃ o : ProcessorId, o.proc = 1001 ∧
          ∃ key, (foreign.matchOrMake name o b).value = .ok (key, .coupled) := by
  intro name a b own foreign
  have ownOffers : ∀ i, (own.rows.get i).coupling = .offered → (own.rows.get i).offering.id = b.id := by
    decide +kernel
  have foreignOffers : ∀ i, (foreign.rows.get i).coupling = .offered →
      (foreign.rows.get i).target = ⟨1002, 7, 0⟩ := by
    decide +kernel
  refine ⟨⟨⟨_, rfl⟩, by decide, by decide +kernel, ?_⟩, ⟨_, rfl⟩, by decide +kernel, ?_⟩
  · rintro ⟨o, -, key, coupled⟩
    obtain ⟨i, suits⟩ := exists_suits_of_coupled coupled
    exact suits.foreign (ownOffers i suits.offered)
  · rintro ⟨o, number, key, coupled⟩
    obtain ⟨i, suits⟩ := exists_suits_of_coupled coupled
    have meant := (suits.specific fun everybody =>
      absurd (number.symm.trans everybody) (by decide)).2
    rw [foreignOffers i suits.offered] at meant
    exact absurd meant (by decide)

end Registry

end SharedVariables
