import Mathlib.Data.Fintype.Card
import SharedVariables.Proofs.Registry.Table
import SharedVariables.Registry.Offer

/-!
# Fresh keys

`Registry.KeySearch` is the search for a key without any bound. Keys made with different low halves of
the counter differ (`compose_injective`), so keys that the search passes over lie in as many different
rows (`rows_of_taken`), and in a table with a free row there are not enough of them to go on for long
(`exists_untaken`, `exists_untaken_of_process`). What `freshKey` gives is what the search comes to
(`freshKeyFrom_search`), and that is a key that no variable has.
-/

namespace SharedVariables

theorem Key.compose_injective {pid pid' : UInt32} {proc proc' : ProcessorNumber} {s t : UInt16}
    (h : compose pid proc s = compose pid' proc' t) : s = t := by
  have hs := s.toNat_lt
  have ht := t.toNat_lt
  have hr := congrArg (fun k : Key => k.raw.toNat) h
  simp only [compose, UInt64.toNat_ofNat'] at hr
  apply UInt16.toNat_inj.1
  omega

/-- A key that a process is named in is not the zero key. -/
theorem Key.compose_not_isNone {pid : UInt32} (named : pid ≠ 0) (proc : ProcessorNumber) (s : UInt16) :
    ¬(compose pid proc s).IsNone := by
  intro h
  have hp := pid.toNat_lt
  have hs := s.toNat_lt
  have positive : pid.toNat ≠ 0 := fun h0 => named (UInt32.toNat_inj.1 h0)
  have hm : (proc.toInt % 2 ^ 16).toNat < 2 ^ 16 := by omega
  have hr := congrArg (fun k : Key => k.raw.toNat) (show compose pid proc s = none from h)
  simp only [compose, none, UInt64.toNat_ofNat', UInt64.toNat_zero] at hr
  omega

namespace Registry

/-- Whether a new variable can have a key: it names a variable, and none that there is. -/
def Untaken (r : Registry) (key : Key) : Prop := ¬key.IsNone ∧ r.findVar key = none

/-- The search for a key: the counter is advanced by one and a key is made with it, again and again until
that is one that a new variable can have. `r.KeySearch pid proc seq n found` says that the search ends
when the counter `seq` has been advanced `n` times, with the key and the counter in `found`. -/
inductive KeySearch (r : Registry) (pid : UInt32) (proc : ProcessorNumber) :
    UInt32 → Nat → Key × UInt32 → Prop
  | ends {seq : UInt32} (untaken : r.Untaken (.compose pid proc (seq + 1).toUInt16)) :
    KeySearch r pid proc seq 1 (.compose pid proc (seq + 1).toUInt16, seq + 1)
  | goesOn {seq : UInt32} {n : Nat} {found : Key × UInt32}
      (taken : ¬r.Untaken (.compose pid proc (seq + 1).toUInt16))
      (rest : KeySearch r pid proc (seq + 1) n found) : KeySearch r pid proc seq (n + 1) found

variable {r : Registry} {pid : UInt32} {proc : ProcessorNumber} {seq : UInt32}

theorem Untaken.key_ne {key : Key} (h : r.Untaken key) (i : RowIndex) : (r.rows.get i).key ≠ key :=
  (findVar_eq_none_iff.1 h.2).resolve_left h.1 i

/-! ## The search -/

theorem advance_advance (seq : UInt32) (k : Nat) :
    seq + 1 + UInt32.ofNat k = seq + UInt32.ofNat (k + 1) := by
  rw [UInt32.ofNat_add, UInt32.add_assoc, UInt32.add_comm 1]
  rfl

namespace KeySearch

variable {n : Nat} {found : Key × UInt32}

theorem untaken (h : r.KeySearch pid proc seq n found) : r.Untaken found.1 := by
  induction h with
  | ends untaken => exact untaken
  | goesOn _ _ ih => exact ih

theorem pos (h : r.KeySearch pid proc seq n found) : 0 < n := by
  cases h with
  | ends => exact Nat.one_pos
  | goesOn => exact Nat.succ_pos _

theorem counter (h : r.KeySearch pid proc seq n found) : found.2 = seq + .ofNat n := by
  induction h with
  | ends => rfl
  | goesOn _ _ ih => rw [ih, advance_advance]

/-- The key that is found is made with the counter as it is then. -/
theorem key (h : r.KeySearch pid proc seq n found) :
    found.1 = .compose pid proc found.2.toUInt16 := by
  induction h with
  | ends => rfl
  | goesOn _ _ ih => exact ih

end KeySearch

/-- A key that the search comes to and that is not taken ends it, if it has not ended before. -/
theorem freshKeyFrom_search {k fuel : Nat} (hk : k < fuel)
    (hu : r.Untaken (.compose pid proc (seq + .ofNat (k + 1)).toUInt16)) :
    ∃ n ≤ k + 1, r.KeySearch pid proc seq n (r.freshKeyFrom pid proc fuel seq) := by
  induction fuel generalizing seq k with
  | zero => exact absurd hk (Nat.not_lt_zero k)
  | succ fuel ih =>
    simp only [freshKeyFrom]
    split
    · rename_i guard
      have taken : ¬r.Untaken (.compose pid proc (seq + 1).toUInt16) := by
        rintro ⟨names, new⟩
        rcases guard with h | h
        · exact names h
        · rw [new] at h
          cases h
      cases k with
      | zero => exact absurd hu taken
      | succ k =>
        rw [← advance_advance] at hu
        obtain ⟨n, hn, search⟩ := ih (Nat.lt_of_succ_lt_succ hk) hu
        exact ⟨n + 1, Nat.succ_le_succ hn, .goesOn taken search⟩
    · rename_i guard
      simp only [not_or, Bool.not_eq_true, Option.isSome_eq_false_iff, Option.isNone_iff_eq_none]
        at guard
      exact ⟨1, Nat.le_add_left 1 k, .ends guard⟩

/-! ## Why it ends -/

/-- Counters that lie less than 65536 apart have different low halves. -/
theorem counter_injective (seq : UInt32) {j k : Nat} (hj : j < 65536) (hk : k < 65536)
    (h : (seq + .ofNat (j + 1)).toUInt16 = (seq + .ofNat (k + 1)).toUInt16) : j = k := by
  have hn := congrArg UInt16.toNat h
  simp only [UInt32.toNat_toUInt16, UInt32.toNat_add, UInt32.toNat_ofNat'] at hn
  omega

/-- Keys that follow each other and cannot be had by a new variable lie in different rows, the zero key in
a free one. -/
theorem rows_of_taken {i : RowIndex} (free : (r.rows.get i).Free) {n : Nat} (small : n ≤ 65536)
    (taken : ∀ k : Fin n, ¬r.Untaken (.compose pid proc (seq + .ofNat (k + 1)).toUInt16)) :
    ∃ row : Fin n → RowIndex, Function.Injective row ∧
      ∀ k : Fin n, (r.rows.get (row k)).key = .compose pid proc (seq + .ofNat (k + 1)).toUInt16 := by
  have held (k : Fin n) :
      ∃ j : RowIndex, (r.rows.get j).key = .compose pid proc (seq + .ofNat (k + 1)).toUInt16 := by
    by_contra nowhere
    rw [not_exists] at nowhere
    refine taken k ⟨fun zero => nowhere i ?_, findVar_eq_none_iff.2 (.inr nowhere)⟩
    exact Eq.trans free (Eq.symm zero)
  choose row hrow using held
  refine ⟨row, fun j k hjk => ?_, hrow⟩
  have same : (r.rows.get (row j)).key = (r.rows.get (row k)).key := by rw [hjk]
  have low := Key.compose_injective ((hrow j).symm.trans (same.trans (hrow k)))
  exact Fin.ext (counter_injective seq (Nat.lt_of_lt_of_le j.isLt small)
    (Nat.lt_of_lt_of_le k.isLt small) low)

/-- There are not enough rows for one key more than there are rows. -/
theorem exists_untaken {i : RowIndex} (free : (r.rows.get i).Free) (pid : UInt32)
    (proc : ProcessorNumber) (seq : UInt32) :
    ∃ k < rowCapacity + 1, r.Untaken (.compose pid proc (seq + .ofNat (k + 1)).toUInt16) := by
  by_contra none
  have taken (k : Fin (rowCapacity + 1)) :
      ¬r.Untaken (.compose pid proc (seq + .ofNat (k + 1)).toUInt16) :=
    fun h => none ⟨k, k.isLt, h⟩
  obtain ⟨row, injective, -⟩ := rows_of_taken free (by decide) taken
  have le := Fintype.card_le_of_injective row injective
  simp only [Fintype.card_fin, Nat.not_succ_le_self] at le

/-- A key that names a process is not in the free row, so there are not even enough for as many keys as
there are rows. -/
theorem exists_untaken_of_process {i : RowIndex} (free : (r.rows.get i).Free) (named : pid ≠ 0)
    (proc : ProcessorNumber) (seq : UInt32) :
    ∃ k < rowCapacity, r.Untaken (.compose pid proc (seq + .ofNat (k + 1)).toUInt16) := by
  by_contra none
  have taken (k : Fin rowCapacity) :
      ¬r.Untaken (.compose pid proc (seq + .ofNat (k + 1)).toUInt16) :=
    fun h => none ⟨k, k.isLt, h⟩
  obtain ⟨row, injective, keys⟩ := rows_of_taken free (by decide) taken
  have elsewhere : i ∉ Set.range row := by
    rintro ⟨k, rfl⟩
    exact Key.compose_not_isNone named proc _ ((keys k).symm.trans free)
  have lt := Fintype.card_lt_of_injective_of_notMem row injective elsewhere
  exact Nat.lt_irrefl _ lt

/-- If there is a free row, the fresh key names a variable, and none that there is. -/
theorem freshKey_untaken {i : RowIndex} (free : (r.rows.get i).Free) (pid : UInt32)
    (proc : ProcessorNumber) : r.Untaken (r.freshKey pid proc).1 := by
  obtain ⟨k, hk, hu⟩ := exists_untaken free pid proc r.seq
  obtain ⟨n, -, search⟩ := freshKeyFrom_search (Nat.lt_succ_of_lt hk) hu
  exact search.untaken

/-- If there is a free row, the search for a key for an offer ends before the counter has been advanced
more often than there are rows, and the fresh key is what it ends with. -/
theorem freshKey_search {i : RowIndex} (free : (r.rows.get i).Free) (named : pid ≠ 0)
    (proc : ProcessorNumber) :
    ∃ n ≤ rowCapacity, r.KeySearch pid proc r.seq n (r.freshKey pid proc) := by
  obtain ⟨k, hk, hu⟩ := exists_untaken_of_process free named proc r.seq
  have inReach : k < rowCapacity + 2 := by omega
  obtain ⟨n, hn, search⟩ := freshKeyFrom_search inReach hu
  exact ⟨n, Nat.le_trans hn hk, search⟩

end Registry

end SharedVariables
