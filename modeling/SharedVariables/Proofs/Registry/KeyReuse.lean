import SharedVariables.Proofs.Registry.FreshKey
import SharedVariables.Proofs.Registry.Leaving
import SharedVariables.Proofs.Registry.Sharing

/-!
# How soon a key comes back

Keys are made for offers and for nothing else: `Operation.issued?` says which key an operation issues, and
the counter moves just when it issues one, by no more than there are rows (`perform_issues`). So of two
keys that are issued along a run the later one is made with a counter that is ahead, and not far ahead
(`counter_of_issued`, `issued_after`). Keys are only equal if the low halves of their counters are, that is
after 65536 counts, and that takes 1024 offers (`keys_come_back_late`).
-/

namespace SharedVariables

/-- The key that an operation issues, if it makes an offer. -/
def Operation.issued? (op : Operation) (r : Registry) : Option Key :=
  match op with
  | matchOrMake name addressee p =>
    match (r.matchOrMake name addressee p).value with
    | .ok (key, .offered) => some key
    | _ => none
  | createOffer name addressee p =>
    match (r.createOffer name addressee p).value with
    | .ok i => some ((r.createOffer name addressee p).registry.rows.get i).key
    | .error _ => none
  | _ => none

namespace Registry

/-- The keys that are issued along a run, first to last: one for every offer that is made. -/
def issuedKeys (r : Registry) : List Operation → List Key
  | [] => []
  | op :: ops => (op.issued? r).toList ++ issuedKeys (r.perform op).registry ops

/-- What an operation does to the counter. If it issues no key, the counter stays; if it does, the counter
is advanced, at most as often as there are rows, and the key is made with it. -/
def Issues (r r' : Registry) : Option Key → Prop
  | none => r'.seq = r.seq
  | some key => ∃ n, 0 < n ∧ n ≤ rowCapacity ∧ r'.seq = r.seq + .ofNat n ∧
    ∃ pid proc, key = .compose pid proc r'.seq.toUInt16

variable {r : Registry} {id : ProcessorId} {key : Key} {i : RowIndex} {name : Name}
  {addressee : ProcessorId} {p : Partner}

/-! ## Operations that issue no key -/

theorem fireEvent_seq (i : RowIndex) (side : Side) (event : Event) :
    (r.fireEvent i side event).registry.seq = r.seq := by
  simp only [fireEvent]
  split
  · exact addToSlot_seq ..
  · rfl

theorem addEvent_seq (event : Event) (id : ProcessorId) (key : Key) :
    (r.addEvent event id key).registry.seq = r.seq := by
  simp only [addEvent]
  split
  · exact fireEvent_seq ..
  · exact addToSlot_seq ..

theorem emptySlotEvents_seq (id : ProcessorId) : (r.emptySlotEvents id).seq = r.seq := by
  simp only [emptySlotEvents]
  split <;> rfl

theorem clearEvent_seq (key : Key) (id : ProcessorId) :
    (r.clearEvent key id).registry.seq = r.seq := by
  have rest (r' : Registry) (h : r'.seq = r.seq) :
      (if (r'.firstMarked id).IsNone then r'.emptySlotEvents id else r').seq = r.seq := by
    split
    · exact (emptySlotEvents_seq id).trans h
    · exact h
  cases hv : r.findVar key with
  | none => simpa only [clearEvent, hv] using rest r rfl
  | some i => simpa only [clearEvent, hv] using rest (r.modifyRow i (·.clearEvent id)) rfl

theorem setState_seq (key : Key) (id : ProcessorId) (used : Bool) :
    (r.setState key id used).registry.seq = r.seq := by
  simp only [setState]
  split
  · rfl
  split
  · split
    · rfl
    split
    · exact fireEvent_seq ..
    · rfl
  · split
    · exact fireEvent_seq ..
    · rfl

theorem mayAccess_seq (key : Key) (id : ProcessorId) (attempt : Int32) (byMe : Control)
    (failed : Event) : (r.mayAccess key id attempt byMe failed).registry.seq = r.seq := by
  simp only [mayAccess]
  split
  · rfl
  split
  · rfl
  split
  · exact fireEvent_seq ..
  · rfl

theorem setControl_seq (key : Key) (id : ProcessorId) (control : Control) :
    (r.setControl key id control).registry.seq = r.seq := by
  simp only [setControl]
  split
  · rfl
  split
  · exact fireEvent_seq ..
  · rfl

theorem matchPendingOffer_seq (name : Name) (addressee : ProcessorId) (p : Partner) :
    (r.matchPendingOffer name addressee p).registry.seq = r.seq := by
  simp only [matchPendingOffer]
  split
  · rfl
  · exact fireEvent_seq ..

theorem retract_seq (key : Key) (id : ProcessorId) : (r.retract key id).registry.seq = r.seq := by
  simp only [retract]
  split
  · rfl
  split
  · rfl
  simp only [retractSide, Outcome.map]
  split
  · rfl
  · exact fireEvent_seq ..

theorem sumRows_seq (leaving : Row → Option ProcessorId) (fuel : Nat) :
    (r.sumRows fun i => retractWhile leaving i fuel).registry.seq = r.seq := by
  refine sumRows_invariant (P := fun r' => r'.seq = r.seq) (fun i r' hr => ?_) rfl
  exact retractWhile_invariant (P := fun r' => r'.seq = r.seq)
    (fun _ _ hr _ => (retract_seq _ _).trans hr) fuel hr

theorem registerProcessor_seq (id : ProcessorId) (pid : UInt32) (port : UInt16) :
    (r.registerProcessor id pid port).registry.seq = r.seq := by
  simp only [registerProcessor]
  split
  · split
    · rfl
    split <;> rfl
  · rfl

theorem unregisterProcessor_seq (id : ProcessorId) :
    (r.unregisterProcessor id).registry.seq = r.seq := by
  simp only [unregisterProcessor]
  split <;> rfl

/-! ## Offers -/

theorem createOffer_eq_of_free (present : p.Present)
    (free : first? r.rows (fun row => row.Free) = some i) (name : Name) (addressee : ProcessorId) :
    (r.createOffer name addressee p).value = .ok i ∧
      (r.createOffer name addressee p).registry.seq = (r.freshKey p.pid p.id.proc).2 ∧
      ((r.createOffer name addressee p).registry.rows.get i).key =
        (r.freshKey p.pid p.id.proc).1 := by
  unfold createOffer
  generalize r.freshKey p.pid p.id.proc = fresh
  obtain ⟨key, seq⟩ := fresh
  rw [if_pos present, free]
  exact ⟨rfl, rfl, congrArg Row.key ((get_put ..).trans (if_pos rfl))⟩

/-- An offer gets the fresh key. -/
theorem createOffer_issued (present : p.Present)
    (free : first? r.rows (fun row => row.Free) = some i) (name : Name) (addressee : ProcessorId) :
    (Operation.createOffer name addressee p).issued? r = some (r.freshKey p.pid p.id.proc).1 := by
  obtain ⟨value, -, key⟩ := createOffer_eq_of_free present free name addressee
  simp only [Operation.issued?, value, key]

theorem createOffer_issues (name : Name) (addressee : ProcessorId) (p : Partner) :
    r.Issues (r.createOffer name addressee p).registry
      ((Operation.createOffer name addressee p).issued? r) := by
  by_cases present : p.Present
  · cases hi : first? r.rows (fun row => row.Free) with
    | none =>
      simp only [Operation.issued?, createOffer_of_full name addressee present hi]
      rfl
    | some i =>
      have free : (r.rows.get i).Free := by simpa using (first?_eq_some_iff.1 hi).1
      obtain ⟨n, hn, search⟩ := freshKey_search free present.1 p.id.proc
      obtain ⟨-, seq, -⟩ := createOffer_eq_of_free present hi name addressee
      rw [createOffer_issued present hi name addressee, Issues, seq]
      exact ⟨n, search.pos, hn, search.counter, p.pid, p.id.proc, search.key⟩
  · simp only [Operation.issued?, createOffer_of_absent name addressee present]
    rfl

/-- A request issues a key if it makes an offer, and then as that offer does. -/
theorem matchOrMake_issues (name : Name) (addressee : ProcessorId) (p : Partner) :
    r.Issues (r.matchOrMake name addressee p).registry
      ((Operation.matchOrMake name addressee p).issued? r) := by
  by_cases present : p.Present
  · cases found : r.findPending name addressee p.id with
    | some i =>
      have done := matchOrMake_completes present found
      simp only [Operation.issued?, done.value]
      exact done.seq
    | none =>
      have made : r.matchOrMake name addressee p =
          (r.createOffer name addressee p).andThen fun made r =>
            r.unchanged (made.map fun i => ((r.rows.get i).key, .offered)) := by
        simp only [matchOrMake, present, ↓reduceIte, matchPendingOffer, found, Outcome.andThen,
          unchanged, List.nil_append]
      have same : (Operation.matchOrMake name addressee p).issued? r =
          (Operation.createOffer name addressee p).issued? r := by
        simp only [Operation.issued?, made, Outcome.andThen, unchanged]
        cases (r.createOffer name addressee p).value <;> rfl
      have registry : (r.matchOrMake name addressee p).registry =
          (r.createOffer name addressee p).registry := by
        rw [made]
        rfl
      rw [same, registry]
      exact createOffer_issues name addressee p
  · simp only [Operation.issued?, matchOrMake, if_neg present]
    rfl

/-! ## Runs -/

theorem perform_issues (r : Registry) (op : Operation) :
    r.Issues (r.perform op).registry (op.issued? r) := by
  cases op with
  | matchOrMake name addressee p => exact matchOrMake_issues name addressee p
  | createOffer name addressee p => exact createOffer_issues name addressee p
  | matchPendingOffer name addressee p => exact matchPendingOffer_seq name addressee p
  | retract key id => exact retract_seq key id
  | retractAllOf pid =>
    simp only [perform, Outcome.map]
    exact sumRows_seq (leavingWithPid pid) 2
  | retractAllBy id =>
    simp only [perform, Outcome.map]
    exact sumRows_seq (fun row => (row.sideOf id).map fun _ => id) 1
  | setState key id used => exact setState_seq key id used
  | setControl key id control => exact setControl_seq key id control
  | mayUse key id attempt => exact mayAccess_seq key id attempt _ _
  | maySet key id attempt => exact mayAccess_seq key id attempt _ _
  | addEvent event id key => exact addEvent_seq event id key
  | clearEvent key id => exact clearEvent_seq key id
  | clearAllEvents id => exact emptySlotEvents_seq id
  | registerProcessor id pid port => exact registerProcessor_seq id pid port
  | unregisterProcessor id => exact unregisterProcessor_seq id
  | unregisterPid pid => rfl
  | removeStale alive =>
    simp only [perform, Outcome.map]
    rw [removeStale_registry]
    exact sumRows_seq (leavingDead alive) 2

/-- The key with number `j` of a run is made with a counter that is between `j + 1` and 64 times as many
counts ahead of the counter at the start. -/
theorem counter_of_issued {ops : List Operation} {j : Nat} (h : (r.issuedKeys ops)[j]? = some key) :
    ∃ n, j < n ∧ n ≤ rowCapacity * (j + 1) ∧
      ∃ pid proc, key = .compose pid proc (r.seq + .ofNat n).toUInt16 := by
  induction ops generalizing r j with
  | nil => cases h
  | cons op ops ih =>
    have step := perform_issues r op
    rw [issuedKeys] at h
    cases issued : op.issued? r with
    | none =>
      rw [issued] at h step
      obtain ⟨n, above, below, made⟩ := ih h
      rw [show (r.perform op).registry.seq = r.seq from step] at made
      exact ⟨n, above, below, made⟩
    | some first =>
      rw [issued] at h step
      obtain ⟨m, pos, le, counter, made⟩ := step
      cases j with
      | zero =>
        obtain rfl : first = key := Option.some.inj h
        rw [counter] at made
        exact ⟨m, pos, by omega, made⟩
      | succ j =>
        obtain ⟨n, above, below, made⟩ := ih (j := j) h
        rw [counter, UInt32.add_assoc, ← UInt32.ofNat_add] at made
        exact ⟨m + n, by omega, by simp only [rowCapacity] at *; omega, made⟩

/-- Once a key has been issued, the counter is the one that it was made with, and the keys that follow are
issued along the rest of the run. -/
theorem issued_after {ops : List Operation} {i : Nat} (h : (r.issuedKeys ops)[i]? = some key) :
    ∃ (r' : Registry) (rest : List Operation),
      (∃ pid proc, key = .compose pid proc r'.seq.toUInt16) ∧
      ∀ k, (r.issuedKeys ops)[i + 1 + k]? = (r'.issuedKeys rest)[k]? := by
  induction ops generalizing r i with
  | nil => cases h
  | cons op ops ih =>
    have step := perform_issues r op
    rw [issuedKeys] at h ⊢
    cases issued : op.issued? r with
    | none =>
      rw [issued] at h
      exact ih h
    | some first =>
      rw [issued] at h step
      cases i with
      | zero =>
        obtain rfl : first = key := Option.some.inj h
        obtain ⟨-, -, -, -, made⟩ := step
        refine ⟨_, ops, made, fun k => ?_⟩
        rw [Nat.zero_add, Nat.add_comm]
        rfl
      | succ i =>
        obtain ⟨r', rest, made, keys⟩ := ih (i := i) h
        refine ⟨r', rest, made, fun k => ?_⟩
        rw [← keys k, show i + 1 + 1 + k = i + 1 + k + 1 by omega]
        rfl

theorem exists_first_free (free : (r.rows.get i).Free) :
    ∃ j, first? r.rows (fun row => row.Free) = some j := by
  refine Option.ne_none_iff_exists'.1 fun none => ?_
  exact of_decide_eq_false (first?_eq_none_iff.1 none i) free

/-- Keys are fresh, and come back late. If there is a free row, then for any partner the search for a key
ends before the counter has been advanced more than 64 times, with the key that the offer gets, and this is
a key other than zero that no row has. And if a key is issued a second time along a run, then with this
offer at least 1024 offers have been made since it was issued the first time. -/
theorem keys_come_back_late (r : Registry) :
    ((∃ i : RowIndex, (r.rows.get i).Free) → ∀ p : Partner, p.Present →
      ∃ n key seq, n ≤ 64 ∧ r.KeySearch p.pid p.id.proc r.seq n (key, seq) ∧
        r.freshKey p.pid p.id.proc = (key, seq) ∧ key ≠ .none ∧
        (∀ i : RowIndex, (r.rows.get i).key ≠ key) ∧
        ∀ name addressee, (Operation.createOffer name addressee p).issued? r = some key) ∧
      ∀ (ops : List Operation) (i j : Nat) (key : Key), i < j →
        (r.issuedKeys ops)[i]? = some key → (r.issuedKeys ops)[j]? = some key → 1024 ≤ j - i := by
  constructor
  · rintro ⟨i, free⟩ p present
    obtain ⟨n, hn, search⟩ := freshKey_search free present.1 p.id.proc
    have issued (name : Name) (addressee : ProcessorId) :
        (Operation.createOffer name addressee p).issued? r = some (r.freshKey p.pid p.id.proc).1 := by
      obtain ⟨j, hj⟩ := exists_first_free free
      exact createOffer_issued present hj name addressee
    generalize r.freshKey p.pid p.id.proc = fresh at search issued
    obtain ⟨key, seq⟩ := fresh
    exact ⟨n, key, seq, hn, search, rfl, search.untaken.1, search.untaken.key_ne, issued⟩
  · intro ops i j key hij hi hj
    obtain ⟨r', rest, ⟨pid, proc, first⟩, keys⟩ := issued_after hi
    rw [show j = i + 1 + (j - i - 1) by omega, keys] at hj
    obtain ⟨n, above, below, pid', proc', second⟩ := counter_of_issued hj
    have low := congrArg UInt16.toNat (Key.compose_injective (first.symm.trans second))
    simp only [UInt32.toNat_toUInt16, UInt32.toNat_add, UInt32.toNat_ofNat'] at low
    simp only [rowCapacity] at below
    omega

/-! ## A key that comes back -/

/-- A partner offers a variable to everybody and takes it back, again and again. -/
def rounds (name : Name) (p : Partner) (n : Nat) : List Operation :=
  (List.replicate n [.createOffer name .general p, .retractAllBy p.id]).flatten

/-- If nobody else shares anything, a round leaves nothing behind but the counter, which is one ahead. -/
theorem round_issues (h : r.WellFormed) (idle : ∀ i : RowIndex, r.rows.get i = .empty)
    (present : p.Present) (name : Name) :
    let offered := (r.createOffer name .general p).registry
    let r' := (offered.retractAllBy p.id).registry
    r'.WellFormed ∧ (∀ i : RowIndex, r'.rows.get i = .empty) ∧ r'.seq = r.seq + 1 ∧
      (Operation.createOffer name .general p).issued? r =
        some (.compose p.pid p.id.proc (r.seq + 1).toUInt16) := by
  intro offered r'
  have free : (r.rows.get 0).Free := by rw [idle]; rfl
  obtain ⟨i, hi⟩ := exists_first_free free
  have well : offered.WellFormed := by
    simpa only [perform, Outcome.map] using h.perform (.createOffer name .general p)
  have fresh : r.freshKey p.pid p.id.proc =
      (.compose p.pid p.id.proc (r.seq + 1).toUInt16, r.seq + 1) := by
    have names := Key.compose_not_isNone present.1 p.id.proc (r.seq + 1).toUInt16
    have new : r.findVar (.compose p.pid p.id.proc (r.seq + 1).toUInt16) = none := by
      refine findVar_eq_none_iff.2 (.inr fun j same => names ?_)
      rw [← same, idle]
      rfl
    simp only [freshKey, freshKeyFrom, names, new, Option.isSome_none, Bool.false_eq_true, or_self,
      ↓reduceIte]
  obtain ⟨-, seq, -⟩ := createOffer_eq_of_free present hi name .general
  obtain ⟨key, told, -, -, -, rows⟩ := createOffer_of_free name .general present hi
  refine ⟨?_, fun j => ?_, ?_, ?_⟩
  · exact well.retractAllBy p.id
  · have offering : (Row.pending key name .general p told).coupling = .offered :=
      Row.coupling_eq_offered_iff.2 ⟨present, fun absent => absent.1 rfl⟩
    have side : (Row.pending key name .general p told).sideOf p.id = some .offering :=
      if_pos ⟨present, decide_eq_true rfl⟩
    rw [retractAllBy_rows well, get_map, rows, get_put]
    split
    · rw [Row.without_of_isSide side, Row.retracted_of_offered offering]
    · rw [idle, Row.without_of_not_isSide (Row.sideOf_empty _)]
  · exact (sumRows_seq _ 1).trans (seq.trans (congrArg Prod.snd fresh))
  · rw [createOffer_issued present hi, fresh]

/-- Every round issues the key that the next counter makes. -/
theorem issuedKeys_rounds (h : r.WellFormed) (idle : ∀ i : RowIndex, r.rows.get i = .empty)
    (present : p.Present) (name : Name) {n j : Nat} (hj : j < n) :
    (r.issuedKeys (rounds name p n))[j]? =
      some (.compose p.pid p.id.proc (r.seq + .ofNat (j + 1)).toUInt16) := by
  induction n generalizing r j with
  | zero => exact absurd hj (Nat.not_lt_zero j)
  | succ n ih =>
    obtain ⟨well, idle', seq, issued⟩ := round_issues h idle present name
    have round : r.issuedKeys (rounds name p (n + 1)) =
        .compose p.pid p.id.proc (r.seq + 1).toUInt16 ::
          ((r.createOffer name .general p).registry.retractAllBy p.id).registry.issuedKeys
            (rounds name p n) := by
      rw [rounds, List.replicate_succ, List.flatten_cons]
      have none : (Operation.retractAllBy p.id).issued? (r.createOffer name .general p).registry =
          Option.none := rfl
      simp only [List.cons_append, List.nil_append, issuedKeys, issued, perform, Outcome.map, none,
        Option.toList_some, Option.toList_none]
      rw [rounds]
    rw [round]
    cases j with
    | zero => rfl
    | succ j =>
      rw [List.getElem?_cons_succ, ih well idle' (Nat.lt_of_succ_lt_succ hj), seq, advance_advance]

/-- The counter and its low half wrap around, and the key that is made then is taken. And a partner that
has offered a variable 65536 times gets the key of its first offer again. -/
theorem keys_come_back_late_of_rounds :
    let p := Partner.ofProcess (.single 1001) 10 0
    let name := Name.ofText "LEVEL"
    let r : Registry := { empty with
      seq := 0xFFFFFFFF
      rows := put empty.rows 0 (.pending (.compose 10 1001 0) name .general p false) }
    r.KeySearch 10 1001 0xFFFFFFFF 2 (.compose 10 1001 1, 1) ∧
      ∃ key, (empty.issuedKeys (rounds name p 65537))[0]? = some key ∧
        (empty.issuedKeys (rounds name p 65537))[65536]? = some key ∧ 1024 ≤ 65536 - 0 := by
  intro p name r
  constructor
  · obtain ⟨n, key, seq, hn, search, fresh, -⟩ :=
      (keys_come_back_late r).1 ⟨1, by decide⟩ p (by decide)
    have found : r.freshKey 10 1001 = (.compose 10 1001 1, 1) := by decide +kernel
    obtain ⟨rfl, rfl⟩ := Prod.mk.inj (fresh.symm.trans found)
    have counter := congrArg UInt32.toNat search.counter
    have two : n = 2 := by
      simp only [r, UInt32.toNat_add, UInt32.toNat_ofNat', UInt32.reduceToNat] at counter
      omega
    exact two ▸ search
  · have keys (j : Nat) (hj : j < 65537) := issuedKeys_rounds empty_wellFormed (p := p)
      (fun i => rows_empty i) (by decide) name hj
    have again := keys 65536 (by decide)
    exact ⟨_, keys 0 (by decide), again,
      (keys_come_back_late empty).2 _ _ _ _ (by decide) (keys 0 (by decide)) again⟩

end Registry

end SharedVariables
