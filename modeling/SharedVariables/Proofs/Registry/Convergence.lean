import SharedVariables.Proofs.Registry.WellFormed

/-!
# Two offers that meet

Two partners that offer each other a variable of the same name come to share it, whatever others do
before, between and after (`complementary_offers_couple`). `Undisturbed` says what the operations of
others leave as it is in a row; it is shown for each step of `RowStep` and carries over to runs
(`run_undisturbed`).
-/

namespace SharedVariables

open Relation

namespace Name

theorem matchPoints_self (points : List UInt32) : matchPoints points points = true := by
  induction points with
  | nil => rfl
  | cons p points ih => simp only [matchPoints, ↓reduceIte, ih, Bool.or_true]

theorem matches_self (name : Name) : name.Matches name := matchPoints_self name.points

end Name

namespace Row

/-- Whether two processors are the sides of a row. -/
def IsSharedBy (row : Row) (a b : ProcessorId) : Prop :=
  (row.sideOf a).isSome ∧ (row.sideOf b).isSome

instance (row : Row) (a b : ProcessorId) : Decidable (row.IsSharedBy a b) :=
  inferInstanceAs (Decidable (_ ∧ _))

/-- Whether a row holds a pending offer of `a` that `b` may complete by a request for `name`. -/
structure Awaits (row : Row) (a b : ProcessorId) (name : Name) : Prop where
  offered : row.coupling = .offered
  offering : row.offering.id = a
  target : row.target.IsGeneral ∨ row.target = b
  named : row.name.Matches name

variable {row row' : Row} {a b : ProcessorId}

/-- A request to `a` alone is what an offer of `a` waits for. -/
theorem isCompletedBy_iff_awaits {name : Name} (hne : a ≠ b) (ha : ¬a.IsGeneral) :
    row.isCompletedBy name a b = true ↔ row.Awaits a b name := by
  rw [isCompletedBy_iff]
  constructor
  · rintro ⟨hc, hn, hcan⟩
    have htarget := canCouple_target hcan
    simp only [canCouple, ha, ↓reduceIte] at hcan
    split at hcan
    · cases hcan
    simp only [Bool.and_eq_true, decide_eq_true_eq] at hcan
    exact ⟨hc, hcan.1, htarget, hn⟩
  · rintro ⟨hc, ho, ht, hn⟩
    refine ⟨hc, hn, ?_⟩
    simp only [canCouple, ho, hne, ha, ↓reduceIte, decide_true, Bool.true_and, Bool.or_eq_true,
      decide_eq_true_eq]
    exact ht

/-- Two different processors that share a row leave no side to anybody else. -/
theorem IsSharedBy.side (h : row.IsSharedBy a b) (hne : a ≠ b) (side : Side) :
    (row.partner side).Present ∧ ((row.partner side).id = a ∨ (row.partner side).id = b) := by
  obtain ⟨sa, hpa, ha⟩ := sideOf_isSome_iff.1 h.1
  obtain ⟨sb, hpb, hb⟩ := sideOf_isSome_iff.1 h.2
  have hs : side = sa ∨ side = sb := by
    cases sa <;> cases sb <;> cases side <;>
      first
      | exact .inl rfl
      | exact .inr rfl
      | exact absurd (ha.symm.trans hb) hne
  rcases hs with rfl | rfl
  · exact ⟨hpa, .inl ha⟩
  · exact ⟨hpb, .inr hb⟩

theorem not_isSharedBy_of_absent (hne : a ≠ b) (side : Side) (h : ¬(row.partner side).Present) :
    ¬row.IsSharedBy a b := fun hs => h (hs.side hne side).1

theorem not_isSharedBy_of_stranger (hne : a ≠ b) (side : Side) (ha : (row.partner side).id ≠ a)
    (hb : (row.partner side).id ≠ b) : ¬row.IsSharedBy a b := fun hs =>
  (hs.side hne side).2.elim ha hb

theorem not_awaits_of_coupling {c : Coupling} (hc : row.coupling = c) (h : c ≠ .offered)
    (a b : ProcessorId) (name : Name) : ¬row.Awaits a b name :=
  fun hw => h (hc.symm.trans hw.offered)

theorem not_awaits_empty (a b : ProcessorId) (name : Name) : ¬empty.Awaits a b name :=
  not_awaits_of_coupling (coupling_eq_none_iff.2 Partner.not_present_empty) (by decide) a b name

theorem isSharedBy_of_bare (h : row'.bare = row.bare) :
    row'.IsSharedBy a b ↔ row.IsSharedBy a b := by
  simp only [IsSharedBy, sideOf_of_bare h]

theorem awaits_of_bare (h : row'.bare = row.bare) {name : Name} :
    row'.Awaits a b name ↔ row.Awaits a b name := by
  have ho := id_of_bare h .offering
  simp only [partner] at ho
  constructor <;> rintro ⟨h1, h2, h3, h4⟩
  · rw [coupling_of_bare h] at h1
    rw [ho] at h2
    rw [target_of_bare h] at h3
    rw [name_of_bare h] at h4
    exact ⟨h1, h2, h3, h4⟩
  · rw [← coupling_of_bare h] at h1
    rw [← ho] at h2
    rw [← target_of_bare h] at h3
    rw [← name_of_bare h] at h4
    exact ⟨h1, h2, h3, h4⟩

theorem coupling_offer {key : Key} {name : Name} {p : Partner} (hp : p.Present) (id : ProcessorId) :
    (offer key name p id).coupling = .offered :=
  coupling_eq_offered_iff.2 ⟨hp, Partner.not_present_target id⟩

theorem awaits_offer {key : Key} {name : Name} {p : Partner} (hp : p.Present) (id : ProcessorId) :
    (offer key name p id).Awaits p.id id name :=
  ⟨coupling_offer hp id, rfl, .inr rfl, name.matches_self⟩

/-- What a step that is done for others than `a` and `b` leaves as it is in a row: whether the two
share it, that neither waits there for the other, and an offer of one to the other. -/
structure Undisturbed (a b : ProcessorId) (row row' : Row) : Prop where
  shared : row'.IsSharedBy a b ↔ row.IsSharedBy a b
  awaits : ∀ name, row'.Awaits a b name → row.Awaits a b name
  awaits' : ∀ name, row'.Awaits b a name → row.Awaits b a name
  kept : row.coupling = .offered → row.offering.id = a → row.target = b → row'.bare = row.bare

namespace Undisturbed

theorem of_bare (h : row'.bare = row.bare) : Undisturbed a b row row' where
  shared := isSharedBy_of_bare h
  awaits _ := (awaits_of_bare h).1
  awaits' _ := (awaits_of_bare h).1
  kept _ _ _ := h

theorem refl (row : Row) : Undisturbed a b row row := of_bare rfl

theorem trans {row'' : Row} (h : Undisturbed a b row row') (h' : Undisturbed a b row' row'') :
    Undisturbed a b row row'' where
  shared := h'.shared.trans h.shared
  awaits name hw := h.awaits name (h'.awaits name hw)
  awaits' name hw := h.awaits' name (h'.awaits' name hw)
  kept hc ho ht := by
    have hb := h.kept hc ho ht
    have ho' := id_of_bare hb .offering
    simp only [partner] at ho'
    refine (h'.kept ?_ ?_ ?_).trans hb
    · rw [coupling_of_bare hb]
      exact hc
    · rw [ho']
      exact ho
    · rw [target_of_bare hb]
      exact ht

/-- A row that the two do not share, before or after, is undisturbed if nothing in it waits for
either of them afterwards and it was no offer of one to the other. -/
theorem of_not_shared (h : ¬row.IsSharedBy a b) (h' : ¬row'.IsSharedBy a b)
    (hw : ∀ name, ¬row'.Awaits a b name ∧ ¬row'.Awaits b a name)
    (hk : row.coupling = .offered → row.offering.id = a → row.target ≠ b) :
    Undisturbed a b row row' where
  shared := iff_of_false h' h
  awaits name hn := absurd hn (hw name).1
  awaits' name hn := absurd hn (hw name).2
  kept hc ho ht := absurd ht (hk hc ho)

/-- When somebody else accepts, it is not an offer to `b` that is accepted. -/
theorem accept {name : Name} {addressee : ProcessorId} {p : Partner} (hne : a ≠ b)
    (hb : ¬b.IsGeneral) (hp : p.Present) (hpa : p.id ≠ a) (hpb : p.id ≠ b)
    (hc : row.isCompletedBy name addressee p.id = true) :
    Undisturbed a b row (row.accept name p) := by
  obtain ⟨hoffered, -, hcan⟩ := isCompletedBy_iff.1 hc
  obtain ⟨ho, hn⟩ := coupling_eq_offered_iff.1 hoffered
  have hcoupled : (row.accept name p).coupling = .coupled := coupling_eq_coupled_iff.2 ⟨ho, hp⟩
  refine of_not_shared (not_isSharedBy_of_absent hne .accepting hn)
    (not_isSharedBy_of_stranger hne .accepting hpa hpb) (fun n => ?_) fun _ _ ht => ?_
  · have no_offer := not_awaits_of_coupling hcoupled (by decide)
    exact ⟨no_offer a b n, no_offer b a n⟩
  · rcases canCouple_target hcan with hg | he
    · exact hb (ht ▸ hg)
    · exact hpb (he.symm.trans ht)

theorem offer {p : Partner} {key : Key} {name : Name} {addressee : ProcessorId} {told : Bool}
    (hne : a ≠ b) (hs : row.Sound) (hf : row.Free) (hpa : p.id ≠ a) (hpb : p.id ≠ b) :
    Undisturbed a b row (.pending key name addressee p told) := by
  have hn : ¬row.offering.Present := by
    rw [hs.free hf]
    exact Partner.not_present_empty
  exact of_not_shared (not_isSharedBy_of_absent hne .offering hn)
    (not_isSharedBy_of_stranger hne .offering hpa hpb)
    (fun _ => ⟨fun h => hpa h.offering, fun h => hpb h.offering⟩)
    fun hc => absurd (coupling_eq_offered_iff.1 hc).1 hn

/-- When somebody else leaves, what remains is offered to that processor, and it is neither of the two. -/
theorem leave {side : Side} (hne : a ≠ b) (hs : row.Sound) (hp : (row.partner side).Present)
    (hpa : (row.partner side).id ≠ a) (hpb : (row.partner side).id ≠ b) :
    Undisturbed a b row (row.leave side) := by
  have hshared := not_isSharedBy_of_stranger hne side hpa hpb
  cases hc : row.coupling with
  | none => exact absurd hc (hs.coupling_ne_none (hs.not_free_of_present hp))
  | offered =>
    have hside := Sound.side_of_offered hc hp
    subst hside
    rw [leave_of_offered hc]
    exact of_not_shared hshared (not_isSharedBy_of_absent hne .offering Partner.not_present_empty)
      (fun n => ⟨not_awaits_empty a b n, not_awaits_empty b a n⟩) fun _ ho => absurd ho hpa
  | coupled =>
    have target (c : ProcessorId) (hpc : (row.partner side).id ≠ c) :
        ¬((row.partner side).id.IsGeneral ∨ (row.partner side).id = c) :=
      not_or.2 ⟨hp.not_isGeneral, hpc⟩
    rw [leave_of_coupled hc]
    refine of_not_shared hshared
      (not_isSharedBy_of_absent hne .accepting (Partner.not_present_target _))
      (fun _ => ⟨fun h => target b hpb h.target, fun h => target a hpa h.target⟩) fun hc' => ?_
    rw [hc] at hc'
    cases hc'

end Undisturbed

end Row

/-! ## Runs of others -/

open Row

section Steps

variable {rows rows' : Vector Row rowCapacity} {a b : ProcessorId} {who : ProcessorId → Prop}

theorem undisturbed_set {i : RowIndex} {row : Row} (h : Undisturbed a b (rows.get i) row)
    (j : RowIndex) : Undisturbed a b (rows.get j) ((put rows i row).get j) := by
  rw [get_put]
  split
  · rename_i hij
    exact hij ▸ h
  · exact .refl _

/-- A row step that is done for others disturbs no row. -/
theorem undisturbed_step (hr : RowsSound rows) (hne : a ≠ b) (hb : ¬b.IsGeneral) (hwa : ¬who a)
    (hwb : ¬who b) (s : RowStep who rows rows') (j : RowIndex) :
    Undisturbed a b (rows.get j) (rows'.get j) := by
  have other {id : ProcessorId} (h : who id) : id ≠ a ∧ id ≠ b :=
    ⟨fun he => hwa (he ▸ h), fun he => hwb (he ▸ h)⟩
  cases s with
  | mark i side => exact undisturbed_set (.of_bare (bare_markEvent ..)) j
  | unmark i id => exact undisturbed_set (.of_bare (bare_clearEvent ..)) j
  | restrict i side control => exact undisturbed_set (.of_bare (bare_withControl ..)) j
  | access i side state => exact undisturbed_set (.of_bare (bare_withState ..)) j
  | accept i name addressee p present acts completed =>
    exact undisturbed_set (.accept hne hb present (other acts).1 (other acts).2 completed) j
  | offer i key name addressee p told free _ acts =>
    exact undisturbed_set (.offer hne (hr.sound i) free (other acts).1 (other acts).2) j
  | leave i side present acts =>
    exact undisturbed_set (.leave hne (hr.sound i) present (other acts).1 (other acts).2) j

theorem undisturbed_steps (hr : RowsSound rows) (hne : a ≠ b) (hb : ¬b.IsGeneral) (hwa : ¬who a)
    (hwb : ¬who b) (s : ReflTransGen (RowStep who) rows rows') (j : RowIndex) :
    Undisturbed a b (rows.get j) (rows'.get j) := by
  induction s with
  | refl => exact .refl _
  | tail s last ih => exact ih.trans (undisturbed_step (hr.steps s) hne hb hwa hwb last j)

end Steps

namespace Registry

/-- Whether no operation of a run makes, takes up, uses, restricts or retracts a share of `a` or of
`b`. Operations on whole processes and on dead ones are among them as long as they find neither `a`
nor `b` on a side of a row that they retract. -/
def RunsForOthers (a b : ProcessorId) : Registry → List Operation → Prop
  | _, [] => True
  | r, op :: ops =>
    ¬op.Shares r a ∧ ¬op.Shares r b ∧ RunsForOthers a b (r.perform op).registry ops

/-- How many variables two processors share. -/
def sharedRows (r : Registry) (a b : ProcessorId) : Nat := r.rows.countP (·.IsSharedBy a b)

variable {r : Registry} {a b : ProcessorId}

/-- A run for others disturbs no row. -/
theorem run_undisturbed (hr : r.WellFormed) (hne : a ≠ b) (hb : ¬b.IsGeneral)
    {ops : List Operation} (h : RunsForOthers a b r ops) (j : RowIndex) :
    Undisturbed a b (r.rows.get j) ((r.run ops).rows.get j) := by
  induction ops generalizing r with
  | nil => exact .refl _
  | cons op ops ih =>
    obtain ⟨hwa, hwb, h⟩ := h
    exact (undisturbed_steps hr.rows hne hb hwa hwb (perform_evolves r op).rows j).trans
      (ih (hr.perform op) h)

theorem sharedRows_eq_of_undisturbed {r' : Registry}
    (h : ∀ j : RowIndex, Undisturbed a b (r.rows.get j) (r'.rows.get j)) :
    r'.sharedRows a b = r.sharedRows a b := by
  have hm : r'.rows.map (fun row => decide (row.IsSharedBy a b)) =
      r.rows.map (fun row => decide (row.IsSharedBy a b)) := by
    refine ext_get fun j => ?_
    rw [get_map, get_map]
    exact decide_eq_decide.2 (h j).shared
  have hc := congrArg (Vector.countP id) hm
  rw [Vector.countP_map, Vector.countP_map] at hc
  exact hc

theorem sharedRows_put {r' : Registry} {i : RowIndex} {row : Row} (hr : r'.rows = put r.rows i row)
    (hi : ¬(r.rows.get i).IsSharedBy a b) :
    r'.sharedRows a b = r.sharedRows a b + if row.IsSharedBy a b then 1 else 0 := by
  simp only [sharedRows, hr, countP_put, decide_eq_true_eq, hi, ↓reduceIte, Nat.sub_zero]

/-! ## Meeting -/

theorem findPending_eq_none {name : Name} (hne : a ≠ b) (ha : ¬a.IsGeneral)
    (h : ∀ i : RowIndex, ¬(r.rows.get i).Awaits a b name) : r.findPending name a b = none := by
  refine first?_eq_none_iff.2 fun i => ?_
  rw [Bool.eq_false_iff, ne_eq, isCompletedBy_iff_awaits hne ha]
  exact h i

theorem findPending_eq_some {name : Name} (hne : a ≠ b) (ha : ¬a.IsGeneral) {i : RowIndex}
    (hi : (r.rows.get i).Awaits a b name)
    (only : ∀ j : RowIndex, (r.rows.get j).Awaits a b name → j = i) :
    r.findPending name a b = some i := by
  refine first?_eq_some_iff.2 ⟨(isCompletedBy_iff_awaits hne ha).2 hi, fun j hj => ?_⟩
  rw [Bool.eq_false_iff, ne_eq, isCompletedBy_iff_awaits hne ha]
  exact fun hw => absurd (only j hw) (Fin.ne_of_lt hj)

variable {p q : Partner} {name : Name}

/-- The first of two partners that look for each other makes an offer. -/
theorem matchOrMake_offers (hp : p.Present) (hq : ¬q.id.IsGeneral) (hne : q.id ≠ p.id)
    (idle : ∀ i : RowIndex, ¬(r.rows.get i).Awaits q.id p.id name)
    (room : (r.matchOrMake name q.id p).value ≠ .error .tableFull) :
    ∃ (i : RowIndex) (row : Row), (r.rows.get i).Free ∧
      row.bare = (Row.offer row.key name p q.id).bare ∧
      (r.matchOrMake name q.id p).value = .ok (row.key, .offered) ∧
      (r.matchOrMake name q.id p).registry.rows = put r.rows i row := by
  have none_pending := findPending_eq_none hne hq idle
  cases hi : first? r.rows (fun row => row.Free) with
  | none => exact absurd (matchOrMake_of_full hp none_pending hi) room
  | some i =>
    have free : (r.rows.get i).Free := by simpa using (first?_eq_some_iff.1 hi).1
    obtain ⟨key, told, -, hv, hrows⟩ := matchOrMake_of_free hp none_pending hi
    exact ⟨i, _, free, rfl, hv, hrows⟩

/-- The second of two partners that look for each other takes up the offer of the first. -/
theorem matchOrMake_couples (hp : ¬p.id.IsGeneral) (hq : q.Present) (hne : p.id ≠ q.id)
    {i : RowIndex} (hi : (r.rows.get i).Awaits p.id q.id name)
    (only : ∀ j : RowIndex, (r.rows.get j).Awaits p.id q.id name → j = i) :
    ∃ row, ¬(r.rows.get i).IsSharedBy p.id q.id ∧ row.IsSharedBy p.id q.id ∧
      (r.matchOrMake name p.id q).value = .ok ((r.rows.get i).key, .coupled) ∧
      (r.matchOrMake name p.id q).registry.rows = put r.rows i row := by
  obtain ⟨hv, hrows⟩ := matchOrMake_of_pending hq (findPending_eq_some hne hp hi only)
  obtain ⟨ho, hn⟩ := coupling_eq_offered_iff.1 hi.offered
  refine ⟨_, not_isSharedBy_of_absent hne .accepting hn, ?_, hv, hrows⟩
  rw [isSharedBy_of_bare (bare_markEvent ..), IsSharedBy, sideOf_isSome_iff, sideOf_isSome_iff]
  exact ⟨⟨.offering, ho, hi.offering⟩, ⟨.accepting, hq, rfl⟩⟩

theorem awaits_empty (a b : ProcessorId) (name : Name) (i : RowIndex) :
    ¬(empty.rows.get i).Awaits a b name := by
  rw [rows_empty]
  exact not_awaits_empty a b name

/-- Two partners that look for each other under one name share one variable more than before,
whoever of the two is first and whatever is done for others before, between and after. It is enough
that at the start neither waits for the other and that there is room for the first one's offer.

The run before leaves neither of them waiting for the other, so the first makes an offer. Nothing that is
done for others touches the offer, and it stays the only one of its kind. The second takes it up, and at no
other time does the number of variables change that the two share. -/
theorem complementary_offers_couple {a b : Partner} {before between after : List Operation}
    (hr : r.Reachable) (ha : a.Present) (hb : b.Present) (hne : a.id ≠ b.id)
    (idle : ∀ i : RowIndex,
      ¬(r.rows.get i).Awaits a.id b.id name ∧ ¬(r.rows.get i).Awaits b.id a.id name)
    (others₁ : RunsForOthers a.id b.id r before) :
    let first := (r.run before).matchOrMake name b.id a
    let second := (first.registry.run between).matchOrMake name a.id b
    first.value ≠ .error .tableFull → RunsForOthers a.id b.id first.registry between →
    RunsForOthers a.id b.id second.registry after →
    ∃ key, first.value = .ok (key, .offered) ∧ second.value = .ok (key, .coupled) ∧
      (second.registry.run after).sharedRows a.id b.id = r.sharedRows a.id b.id + 1 := by
  intro first second room others₂ others₃
  have hga := ha.not_isGeneral
  have hgb := hb.not_isGeneral
  have same₁ := run_undisturbed hr.wellFormed hne hgb others₁
  obtain ⟨i, row, free, hbare, hv₁, hrows₁⟩ := matchOrMake_offers ha hgb (Ne.symm hne)
    (fun j hw => (idle j).2 ((same₁ j).awaits' name hw)) room
  have well₁ : first.registry.WellFormed :=
    (hr.run before).wellFormed.perform (.matchOrMake name b.id a)
  have offered : row.Awaits a.id b.id name := (awaits_of_bare hbare).2 (awaits_offer ha b.id)
  have own : first.registry.rows.get i = row := by rw [hrows₁, get_put, if_pos rfl]
  have same₂ := run_undisturbed well₁ hne hgb others₂
  have kept : ((first.registry.run between).rows.get i).bare = row.bare := by
    refine own ▸ (same₂ i).kept ?_ ?_ ?_ <;> rw [own]
    · exact offered.offered
    · exact offered.offering
    · exact target_of_bare hbare
  have only (j : RowIndex) (hw : ((first.registry.run between).rows.get j).Awaits a.id b.id name) :
      j = i := by
    by_contra hj
    have hw' := (same₂ j).awaits name hw
    rw [hrows₁, get_put, if_neg (Ne.symm hj)] at hw'
    exact (idle j).1 ((same₁ j).awaits name hw')
  obtain ⟨row', unshared, shared, hv₂, hrows₂⟩ :=
    matchOrMake_couples hga hb hne ((awaits_of_bare kept).2 offered) only
  refine ⟨row.key, hv₁, ?_, ?_⟩
  · rw [← key_of_bare kept]
    exact hv₂
  have well₂ : second.registry.WellFormed := (well₁.run between).perform (.matchOrMake name a.id b)
  have fresh : ¬((r.run before).rows.get i).IsSharedBy a.id b.id := by
    rw [((hr.run before).wellFormed.rows.sound i).free free]
    exact not_isSharedBy_of_absent hne .offering Partner.not_present_empty
  have alone : ¬row.IsSharedBy a.id b.id := by
    rw [← own, ← (same₂ i).shared]
    exact unshared
  calc (second.registry.run after).sharedRows a.id b.id
    _ = second.registry.sharedRows a.id b.id :=
      sharedRows_eq_of_undisturbed (run_undisturbed well₂ hne hgb others₃)
    _ = (first.registry.run between).sharedRows a.id b.id + 1 := by
      rw [sharedRows_put hrows₂ unshared, if_pos shared]
    _ = first.registry.sharedRows a.id b.id + 1 := by rw [sharedRows_eq_of_undisturbed same₂]
    _ = (r.run before).sharedRows a.id b.id + 1 := by
      rw [sharedRows_put hrows₁ fresh, if_neg alone]
    _ = r.sharedRows a.id b.id + 1 := by rw [sharedRows_eq_of_undisturbed same₁]

/-- A third processor makes offers of that name too, and takes them back. -/
theorem complementary_offers_couple_beside_third :
    let a := Partner.ofProcess (.single 1001) 10 0
    let b := Partner.ofProcess (.single 1002) 20 0
    let c := Partner.ofProcess (.single 1003) 30 0
    let name := Name.ofText "LEVEL"
    let first := (empty.run [.matchOrMake name a.id c]).matchOrMake name b.id a
    let second := (first.registry.run [.matchOrMake name .general c]).matchOrMake name a.id b
    ∃ key, first.value = .ok (key, .offered) ∧ second.value = .ok (key, .coupled) ∧
      (second.registry.run [.retractAllBy c.id]).sharedRows a.id b.id =
        empty.sharedRows a.id b.id + 1 := by
  refine complementary_offers_couple (a := .ofProcess (.single 1001) 10 0)
    (b := .ofProcess (.single 1002) 20 0) ⟨[], rfl⟩ (by decide) (by decide) (by decide)
    (fun i => ⟨awaits_empty _ _ _ i, awaits_empty _ _ _ i⟩) ?_ ?_ ?_ ?_
  · simp only [RunsForOthers, Operation.Shares]
    decide
  · decide +kernel
  · simp only [RunsForOthers, Operation.Shares]
    decide
  · simp only [RunsForOthers, Operation.Shares]
    decide

end Registry

end SharedVariables
