import Mathlib.Data.Fintype.Prod
import Mathlib.Data.Fintype.Sum
import Mathlib.Order.Bounds.Basic
import SharedVariables.Proofs.Registry.Holders
import SharedVariables.Proofs.Registry.Operation

/-!
# The lowest unused number

A number is in use while some place names its processor, be it a slot or a side of a row
(`Registry.InUse`). A place names one processor at most (`NamedAt.unique`), so of one number more than
there are places (`card_place`) one is unused (`exists_unused`). `Registry.NumberSearch` is the search for
the first of them without any bound, and `getUnusedId` is what the search comes to (`getUnusedId_search`).
-/

namespace SharedVariables

instance : Fintype Side := ⟨{.offering, .accepting}, fun side => by cases side <;> decide⟩

/-- A place that can name a processor: a slot, or a side of a row. -/
abbrev Place := SlotIndex ⊕ RowIndex × Side

/-- The number of places. -/
abbrev placeCount : Nat := slotCapacity + 2 * rowCapacity

theorem card_place : Fintype.card Place = placeCount := by
  rw [Fintype.card_sum, Fintype.card_prod, Fintype.card_fin, Fintype.card_fin]
  rfl

/-- The number of a user processor, the first one for 0. -/
def ProcessorNumber.user (k : Nat) : ProcessorNumber := .ofNat (1001 + k)

namespace ProcessorNumber

theorem user_succ (k : Nat) : user k + 1 = user (k + 1) := (Int32.ofNat_add (1001 + k) 1).symm

theorem user_inRange {k : Nat} (small : k ≤ placeCount) : 1001 + k < 2 ^ 31 - 1 :=
  Nat.lt_of_le_of_lt (Nat.add_le_add_left small 1001) (by decide)

theorem toInt_user {k : Nat} (small : k ≤ placeCount) : (user k).toInt = 1001 + k := by
  rw [user, Int32.toInt_ofNat_of_lt (Nat.lt_of_lt_pred (user_inRange small)), Int.natCast_add]
  rfl

theorem user_lt_maxValue {k : Nat} (small : k ≤ placeCount) : user k < Int32.maxValue := by
  have inRange := user_inRange small
  rw [Int32.lt_iff_toInt_lt, toInt_user small, Int32.toInt_maxValue]
  omega

theorem user_injective {j k : Nat} (hj : j ≤ placeCount) (hk : k ≤ placeCount)
    (same : user j = user k) : j = k := by
  have h := congrArg Int32.toInt same
  rw [toInt_user hj, toInt_user hk] at h
  omega

/-- The next number is the least one above a number that is not the last. -/
theorem succ_le {m n : ProcessorNumber} (inRange : n < Int32.maxValue) (below : n < m) : n + 1 ≤ m := by
  rw [Int32.lt_iff_toInt_lt] at inRange below
  rw [Int32.le_iff_toInt_le, Int32.toInt_add]
  have low := n.le_toInt
  have next : (n.toInt + Int32.toInt 1).bmod (2 ^ 32) = n.toInt + 1 := by
    rw [Int32.toInt_one, Int.bmod_eq_of_le] <;> rw [Int32.toInt_maxValue] at inRange <;> omega
  omega

end ProcessorNumber

open ProcessorNumber

namespace Registry

/-- Whether the processor `id` is the one at a place. A side that is not present names nobody, even if the
offer is addressed to somebody. -/
def NamedAt (r : Registry) (id : ProcessorId) : Place → Prop
  | .inl j => (r.slots.get j).Holds id
  | .inr (i, side) => ¬(r.rows.get i).Free ∧ ((r.rows.get i).partner side).Present ∧
      ((r.rows.get i).partner side).id = id

/-- Whether the processor `id` is registered or a side of a variable. -/
def InUse (r : Registry) (id : ProcessorId) : Prop := ∃ place, r.NamedAt id place

/-- The search for an unused number: the numbers are tried one after the other, and the one after a number
is made before that is tried. `r.NumberSearch n found` says that the search from `n` ends with `found`. -/
inductive NumberSearch (r : Registry) : ProcessorNumber → ProcessorNumber → Prop
  | ends {n : ProcessorNumber} (inRange : n < Int32.maxValue) (unused : ¬r.InUse (.single n)) :
    NumberSearch r n n
  | goesOn {n found : ProcessorNumber} (inRange : n < Int32.maxValue) (inUse : r.InUse (.single n))
    (rest : NumberSearch r (n + 1) found) : NumberSearch r n found

variable {r : Registry} {id id' : ProcessorId} {place : Place}

theorem NamedAt.unique (h : r.NamedAt id place) (h' : r.NamedAt id' place) : id = id' := by
  cases place with
  | inl j => exact h.2.symm.trans h'.2
  | inr place => exact h.2.2.symm.trans h'.2.2

theorem isUnusedId_iff : r.isUnusedId id = true ↔ ¬r.InUse id := by
  have slots : r.isRegistered id = true ↔ ∃ j, r.NamedAt id (.inl j) := isRegistered_iff
  have rows : (r.usedRows.all fun row => (row.sideOf id).isNone) = true ↔
      ¬∃ place, r.NamedAt id (.inr place) := by
    simp only [usedRows, List.all_filter, List.all_eq_true, mem_toList, forall_exists_index,
      forall_apply_eq_imp_iff, Bool.not_not, Bool.or_eq_true, decide_eq_true_eq,
      Option.isNone_iff_eq_none, NamedAt, Prod.exists, not_exists, not_and]
    refine forall_congr' fun i => ?_
    rw [or_iff_not_imp_left, ← Option.not_isSome_iff_eq_none, Row.sideOf_isSome_iff]
    simp only [not_exists, not_and]
    exact ⟨fun h side used => h used side, fun h used side => h side used⟩
  rw [isUnusedId, Bool.and_eq_true, Bool.not_eq_true', ← Bool.not_eq_true, slots, rows, InUse, Sum.exists,
    not_or]

/-! ## The search -/

namespace NumberSearch

variable {n m found : ProcessorNumber}

theorem unused (h : r.NumberSearch n found) : ¬r.InUse (.single found) := by
  induction h with
  | ends _ unused => exact unused
  | goesOn _ _ _ ih => exact ih

/-- No number from the first one on is unused and comes before the one that is found. -/
theorem le (h : r.NumberSearch n found) (atLeast : n ≤ m) (unused : ¬r.InUse (.single m)) : found ≤ m := by
  induction h with
  | ends => exact atLeast
  | goesOn inRange inUse _ ih =>
    refine ih (succ_le inRange (Int32.lt_of_le_of_ne atLeast ?_))
    rintro rfl
    exact unused inUse

/-- From a number on, the search comes to the first one that is unused. -/
theorem of_unused {k : Nat} (small : k ≤ placeCount) (unused : ¬r.InUse (.single (user k)))
    (before : ∀ j < k, r.InUse (.single (user j))) {j : Nat} (hj : j ≤ k) :
    r.NumberSearch (user j) (user k) := by
  induction hj using Nat.decreasingInduction with
  | self => exact .ends (user_lt_maxValue small) unused
  | of_succ j hj ih =>
    refine .goesOn (user_lt_maxValue (by omega)) (before j hj) ?_
    rwa [user_succ]

end NumberSearch

/-! ## Why it ends -/

/-- There are not enough places for one number more than there are places. -/
theorem exists_unused (r : Registry) : ∃ k ≤ placeCount, ¬r.InUse (.single (user k)) := by
  by_contra none
  have named (k : Fin (placeCount + 1)) : r.InUse (.single (user k)) := by
    by_contra unused
    exact none ⟨k, Nat.le_of_lt_succ k.isLt, unused⟩
  choose place names using named
  have injective : Function.Injective place := by
    intro j k same
    have named' := names k
    rw [← same] at named'
    have numbers := congrArg ProcessorId.proc ((names j).unique named')
    exact Fin.ext (user_injective (Nat.le_of_lt_succ j.isLt) (Nat.le_of_lt_succ k.isLt) numbers)
  have le := Fintype.card_le_of_injective place injective
  rw [Fintype.card_fin, card_place] at le
  exact Nat.not_succ_le_self _ le

/-- The number that is given is the first unused one among as many numbers as there are places, and one. -/
theorem getUnusedId_eq_user (r : Registry) : ∃ k ≤ placeCount,
    r.getUnusedId = user k ∧ ¬r.InUse (.single (user k)) ∧ ∀ j < k, r.InUse (.single (user j)) := by
  have tried : (userNumbers.find? fun n => r.isUnusedId (.single n)) =
      ((List.range (placeCount + 1)).find? fun k => r.isUnusedId (.single (user k))).map user :=
    List.find?_map ..
  rw [getUnusedId, tried]
  cases hk : (List.range _).find? _ with
  | none =>
    obtain ⟨k, small, unused⟩ := r.exists_unused
    have inUse := List.find?_eq_none.1 hk k (List.mem_range.2 (Nat.lt_succ_of_le small))
    exact absurd (isUnusedId_iff.2 unused) inUse
  | some k =>
    obtain ⟨unused, small, before⟩ := List.find?_range_eq_some.1 hk
    refine ⟨k, Nat.le_of_lt_succ (List.mem_range.1 small), rfl, isUnusedId_iff.1 unused, fun j hj => ?_⟩
    have inUse := before j hj
    rwa [Bool.not_eq_true', ← Bool.not_eq_true, isUnusedId_iff, not_not] at inUse

theorem getUnusedId_search (r : Registry) : r.NumberSearch .firstUser r.getUnusedId := by
  obtain ⟨k, small, found, unused, before⟩ := r.getUnusedId_eq_user
  rw [found]
  exact .of_unused small unused before (Nat.zero_le k)

/-! ## Registering it -/

/-- Whoever is present and not registered gets a slot of its own, unless all are used. -/
theorem registerProcessor_of_new {pid : UInt32} (port : UInt16)
    (present : (Partner.ofProcess id pid port).Present) (new : r.isRegistered id = false) :
    (r.registerProcessor id pid port = r.unchanged false ∧ ∀ j, (r.slots.get j).Used) ∨
      ∃ j, ¬(r.slots.get j).Used ∧ r.registerProcessor id pid port =
        ⟨true, { r with slots := put r.slots j ⟨.ofProcess id pid port, .none⟩ }, []⟩ := by
  rw [isRegistered, Option.isSome_eq_false_iff, Option.isNone_iff_eq_none] at new
  simp only [registerProcessor, present, ↓reduceIte, new]
  cases hj : first? r.slots _ with
  | none =>
    refine .inl ⟨rfl, fun j => ?_⟩
    have used := first?_eq_none_iff.1 hj j
    rwa [Bool.not_eq_false', decide_eq_true_eq] at used
  | some j =>
    refine .inr ⟨j, ?_, rfl⟩
    have unused := (first?_eq_some_iff.1 hj).1
    rwa [Bool.not_eq_true', decide_eq_false_iff_not] at unused

/-- In every registry the search for an unused number ends, without coming to the last number, and what is
given is what it ends with: the least number from the first user processor's on whose processor is neither
registered nor a side of a variable. It is at most as far from the first one as there are places. To
register it for a process then fails if all slots are used, and otherwise fills in a slot that is not; in
neither case does it change a registration. -/
theorem unused_number_is_least (r : Registry) :
    let n := r.getUnusedId
    r.NumberSearch .firstUser n ∧ IsLeast {m | .firstUser ≤ m ∧ ¬r.InUse (.single m)} n ∧
      n.toInt ≤ 1001 + ↑(slotCapacity + 2 * rowCapacity) ∧
      ∀ (pid : UInt32) (port : UInt16), pid ≠ 0 →
        (r.registerProcessor (.single n) pid port = r.unchanged false ∧ ∀ j, (r.slots.get j).Used) ∨
          ∃ j, ¬(r.slots.get j).Used ∧ r.registerProcessor (.single n) pid port =
            ⟨true, { r with slots := put r.slots j ⟨.ofProcess (.single n) pid port, .none⟩ }, []⟩ := by
  intro n
  have search : r.NumberSearch .firstUser n := r.getUnusedId_search
  obtain ⟨k, small, found, -⟩ := r.getUnusedId_eq_user
  have value : n.toInt = 1001 + k := (congrArg Int32.toInt found).trans (toInt_user small)
  have atLeast : ProcessorNumber.firstUser ≤ n := by
    rw [Int32.le_iff_toInt_le, value]
    exact Int.le_add_of_nonneg_right (Int.natCast_nonneg k)
  have bound : n.toInt ≤ 1001 + ↑(slotCapacity + 2 * rowCapacity) := by
    rw [value]
    exact Int.add_le_add_left (Int.ofNat_le.2 small) 1001
  have positive : 0 < n := Int32.lt_of_lt_of_le (by decide) atLeast
  have new : r.isRegistered (.single n) = false := by
    rw [← Bool.not_eq_true, isRegistered_iff]
    rintro ⟨j, holds⟩
    exact search.unused ⟨.inl j, holds⟩
  exact ⟨search, ⟨⟨atLeast, search.unused⟩, fun m hm => search.le hm.1 hm.2⟩, bound,
    fun pid port named => registerProcessor_of_new port ⟨named, positive⟩ new⟩

/-- One number is registered and the next one shares a variable without being registered. The one after
that is unused, though an offer is addressed to it, and gets a slot of its own. -/
theorem unused_number_is_least_of_target :
    let a := ProcessorId.single 1001
    let b := ProcessorId.single 1002
    let c := ProcessorId.single 1003
    let r := empty.run [.registerProcessor a 10 5001, .matchOrMake (.ofText "X") c (.ofProcess b 20 5002)]
    (30 : UInt32) ≠ 0 ∧ r.getUnusedId = c.proc ∧
      ∃ j, ¬(r.slots.get j).Used ∧ r.registerProcessor (.single r.getUnusedId) 30 5003 =
        ⟨true, { r with slots := put r.slots j ⟨.ofProcess (.single r.getUnusedId) 30 5003, .none⟩ }, []⟩ := by
  intro a b c r
  have named : (30 : UInt32) ≠ 0 := by decide
  have room : ¬∀ j, (r.slots.get j).Used := by decide +kernel
  refine ⟨named, by decide +kernel, ?_⟩
  exact ((unused_number_is_least r).2.2.2 30 5003 named).resolve_left fun full => room full.2

end Registry

end SharedVariables
