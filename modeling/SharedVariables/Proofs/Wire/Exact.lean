import SharedVariables.Proofs.Wire.Item

/-!
# Readers without leniency

`Reader.Exact r P bytes` says that there is one way to write what `r` reads: it reads a value from some
bytes just if the value has `P` and the bytes begin with what `bytes` writes of it, and it takes no more
than that. So no bytes begin with those of two values (`Exact.unique`). Fields of fixed size are read
exactly, and so are byte strings; `Exact.map` and `Exact.bind` pass the property on to what is made of
them.
-/

namespace SharedVariables.Wire

/-! ## Numbers that bytes spell -/

theorem foldl_ofBigEndian (bs : Bytes) (n : Nat) :
    bs.foldl (fun n b => n * 256 + b.toNat) n = n * Nat.pow 256 bs.length + ofBigEndian bs := by
  induction bs generalizing n with
  | nil => simp [ofBigEndian]
  | cons b bs ih =>
    have pow : Nat.pow 256 (b :: bs).length = 256 * Nat.pow 256 bs.length := Nat.mul_comm ..
    rw [ofBigEndian, List.foldl_cons, List.foldl_cons, ih, ih, pow, Nat.zero_mul, Nat.zero_add,
      Nat.add_mul, Nat.mul_assoc, Nat.add_assoc]

/-- The first byte counts for as many as the others can spell. -/
theorem ofBigEndian_cons (b : UInt8) (bs : Bytes) :
    ofBigEndian (b :: bs) = b.toNat * Nat.pow 256 bs.length + ofBigEndian bs := by
  rw [ofBigEndian, List.foldl_cons, foldl_ofBigEndian, Nat.zero_mul, Nat.zero_add]

/-- What lies above the low bytes is not written. -/
theorem bigEndian_mul_add (k m n : Nat) : bigEndian k (m * Nat.pow 256 k + n) = bigEndian k n := by
  induction k generalizing m with
  | zero => rfl
  | succ k ih =>
    have pow : m * Nat.pow 256 (k + 1) = m * 256 * Nat.pow 256 k := by
      rw [Nat.mul_assoc, Nat.mul_comm 256]
      rfl
    have pos : 0 < Nat.pow 256 k := Nat.pow_pos (by decide)
    rw [bigEndian, bigEndian, pow, ih, Nat.add_comm, Nat.add_mul_div_right _ _ pos]
    congr 1
    apply UInt8.toNat_inj.1
    simp only [UInt8.toNat_ofNat', Nat.reducePow]
    omega

/-- Bytes are those of the number that they spell. -/
theorem bigEndian_ofBigEndian (bs : Bytes) : bigEndian bs.length (ofBigEndian bs) = bs := by
  induction bs with
  | nil => rfl
  | cons b bs ih =>
    have below := ofBigEndian_lt bs
    have first : (b.toNat * Nat.pow 256 bs.length + ofBigEndian bs) / Nat.pow 256 bs.length =
        b.toNat := by
      rw [Nat.mul_comm, Nat.mul_add_div (Nat.zero_lt_of_lt below), Nat.div_eq_of_lt below, Nat.add_zero]
    rw [List.length_cons, bigEndian, ofBigEndian_cons, first, bigEndian_mul_add, ih,
      UInt8.ofNat_toNat]

namespace Reader

variable {α β : Type} {r : Reader α} {P : α → Prop} {bytes : α → Bytes}

theorem append_of_splitAt? {n : Nat} {bs taken front rest : Bytes}
    (h : splitAt? n taken bs = some (front, rest)) : taken.reverse ++ bs = front ++ rest := by
  induction n generalizing taken bs with
  | zero =>
    cases h
    rfl
  | succ n ih =>
    cases bs with
    | nil => cases h
    | cons b bs => rw [← ih h, List.reverse_cons, List.append_assoc, List.singleton_append]

/-- The bytes that are taken are those in front. -/
theorem append_of_take {n : Nat} {bs front rest : Bytes} (h : take n bs = (.ok front, rest)) :
    bs = front ++ rest := by
  rw [take] at h
  split at h
  · rename_i hs
    cases h
    exact append_of_splitAt? hs
  · cases h

/-- `r` reads just the values that have `P`, and each of them from what `bytes` writes of it alone. -/
def Exact (r : Reader α) (P : α → Prop) (bytes : α → Bytes) : Prop :=
  ∀ bs a rest, r bs = (.ok a, rest) ↔ P a ∧ bs = bytes a ++ rest

namespace Exact

theorem reads (h : Exact r P bytes) {a : α} (ha : P a) (rest : Bytes) :
    r (bytes a ++ rest) = (.ok a, rest) := (h _ _ _).2 ⟨ha, rfl⟩

/-- No bytes begin with those of two values. -/
theorem unique (h : Exact r P bytes) {a a' : α} (ha : P a) (ha' : P a') {rest rest' : Bytes}
    (same : bytes a ++ rest = bytes a' ++ rest') : a = a' ∧ rest = rest' := by
  have read := h.reads ha rest
  rw [same, h.reads ha' rest'] at read
  cases read
  exact ⟨rfl, rfl⟩

/-- A result that does not come from the bytes. -/
protected theorem result (given : Except Error α) :
    Exact (fun bs => (given, bs)) (given = .ok ·) fun _ => [] := by
  intro bs a rest
  rw [Prod.mk.injEq, List.nil_append]

protected theorem fail (e : Error) (none : ∀ a, ¬P a) : Exact (fail e) P bytes := by
  intro bs a rest
  refine iff_of_false ?_ fun h => none a h.1
  rintro ⟨⟩

/-- What is read with a second reader says what the first one has read. -/
protected theorem bind {f : α → Reader β} {Q : α → β → Prop} {bytes' : α → β → Bytes}
    (h : Exact r P bytes) (hf : ∀ a, P a → Exact (f a) (Q a) (bytes' a)) (first : β → α)
    (hfirst : ∀ a b, P a → Q a b → first b = a) :
    Exact (r >>= f) (fun b => P (first b) ∧ Q (first b) b)
      fun b => bytes (first b) ++ bytes' (first b) b := by
  intro bs b rest
  constructor
  · intro read
    obtain ⟨a, middle, ha, hb⟩ := exists_of_bind read
    obtain ⟨pa, rfl⟩ := (h _ _ _).1 ha
    obtain ⟨qb, rfl⟩ := (hf a pa _ _ _).1 hb
    obtain rfl := hfirst a b pa qb
    exact ⟨⟨pa, qb⟩, (List.append_assoc ..).symm⟩
  · rintro ⟨⟨pa, qb⟩, rfl⟩
    rw [List.append_assoc, bind_of_ok (h.reads pa _)]
    exact (hf _ pa).reads qb rest

/-- What is made of the values that are read need not tell them apart. -/
theorem map_eq_ok_iff (h : Exact r P bytes) (g : α → β) {bs rest : Bytes} {b : β} :
    (do return g (← r) : Reader β) bs = (.ok b, rest) ↔ ∃ a, P a ∧ g a = b ∧ bs = bytes a ++ rest := by
  constructor
  · intro read
    obtain ⟨a, middle, ha, hb⟩ := exists_of_bind read
    obtain ⟨pa, rfl⟩ := (h _ _ _).1 ha
    cases hb
    exact ⟨a, pa, rfl, rfl⟩
  · rintro ⟨a, pa, rfl, rfl⟩
    rw [bind_of_ok (h.reads pa rest)]
    rfl

/-- Another way to say what has been read. -/
protected theorem map {Q : β → Prop} {bytes' : β → Bytes} (h : Exact r P bytes) (g : α → β)
    (back : β → α) (hg : ∀ a, P a → Q (g a) ∧ back (g a) = a) (hback : ∀ b, Q b → P (back b) ∧ g (back b) = b)
    (hbytes : ∀ b, Q b → bytes' b = bytes (back b)) : Exact (do return g (← r)) Q bytes' := by
  intro bs b rest
  rw [h.map_eq_ok_iff g]
  constructor
  · rintro ⟨a, pa, rfl, rfl⟩
    obtain ⟨qb, hab⟩ := hg a pa
    rw [hbytes _ qb, hab]
    exact ⟨qb, rfl⟩
  · rintro ⟨qb, rfl⟩
    obtain ⟨pa, hab⟩ := hback b qb
    exact ⟨back b, pa, hab, by rw [hbytes b qb]⟩

/-- Another way to write what is read. -/
protected theorem congr {Q : α → Prop} {bytes' : α → Bytes} (h : Exact r P bytes)
    (hP : ∀ a, P a ↔ Q a) (hbytes : ∀ a, Q a → bytes a = bytes' a) : Exact r Q bytes' := by
  intro bs a rest
  rw [h bs a rest, hP]
  exact and_congr_right fun qa => by rw [hbytes a qa]

protected theorem take (n : Nat) : Exact (take n) (·.length = n) id := by
  intro bs front rest
  constructor
  · intro read
    exact ⟨length_of_take read, append_of_take read⟩
  · rintro ⟨rfl, rfl⟩
    exact (Reads.take front).whole rest

/-- Every number that fits has one form. -/
protected theorem unsigned (k : Nat) : Exact (unsigned k) (· < Nat.pow 256 k) (bigEndian k) := by
  refine (Exact.take k).map ofBigEndian (bigEndian k) (fun bs hbs => ?_) (fun n hn => ?_) fun _ _ => rfl
  · rw [← hbs]
    exact ⟨ofBigEndian_lt bs, bigEndian_ofBigEndian bs⟩
  · rw [ofBigEndian_bigEndian, Nat.mod_eq_of_lt hn]
    exact ⟨length_bigEndian k n, rfl⟩

/-- Every number that fits with its sign has one form. -/
protected theorem signed (k : Nat) :
    Exact (signed k) (fun n => -Nat.pow 256 k ≤ 2 * n ∧ 2 * n < Nat.pow 256 k) (encodeSigned k) := by
  refine (Exact.unsigned k).map (signExtend k) (fun n => (n % Nat.pow 256 k).toNat) (fun n hn => ?_)
    (fun n hn => ?_) fun _ _ => rfl
  · rw [signExtend]
    generalize Nat.pow 256 k = m at hn ⊢
    have back : ((n : Int) - m) % m = n := by
      rw [Int.sub_emod_right, Int.emod_eq_of_lt (by omega) (by omega)]
    split
    · exact ⟨⟨by omega, by omega⟩, by rw [Int.emod_eq_of_lt (by omega) (by omega), Int.toNat_natCast]⟩
    · exact ⟨⟨by omega, by omega⟩, by rw [back, Int.toNat_natCast]⟩
  · have pos : (0 : Int) < Nat.pow 256 k := Int.natCast_pos.2 (Nat.pow_pos (by decide))
    refine ⟨?_, signExtend_emod hn.1 hn.2⟩
    rw [Int.toNat_lt (Int.emod_nonneg _ (Int.ne_of_gt pos))]
    exact Int.emod_lt_of_pos _ pos

/-- A byte string that is not too long for its length. -/
protected theorem string :
    Exact string (·.length ≤ maxStringLength) fun bs => bigEndian 2 bs.length ++ bs :=
  ((Exact.unsigned 2).bind (fun n _ => Exact.take n) List.length fun _ _ _ h => h).congr
    (fun _ => by simp [maxStringLength, Nat.lt_succ_iff]) fun _ _ => rfl

/-- The values of a list one after the other. -/
protected theorem replicate (h : Exact r P bytes) (n : Nat) :
    Exact (replicate n r) (fun as => as.length = n ∧ ∀ a ∈ as, P a) (·.flatMap bytes) := by
  suffices go : ∀ (read : List α) bs as rest, replicateAfter r n read bs = (.ok as, rest) ↔
      ∃ more, as = read.reverse ++ more ∧ (more.length = n ∧ ∀ a ∈ more, P a) ∧
        bs = more.flatMap bytes ++ rest by
    intro bs as rest
    rw [Reader.replicate, go [] bs as rest]
    simp only [List.reverse_nil, List.nil_append, exists_eq_left']
  induction n with
  | zero =>
    intro read bs as rest
    show (Except.ok read.reverse, bs) = (Except.ok as, rest) ↔ _
    constructor
    · rintro ⟨⟩
      exact ⟨[], by simp⟩
    · rintro ⟨more, rfl, ⟨none, -⟩, rfl⟩
      obtain rfl := List.eq_nil_of_length_eq_zero none
      simp
  | succ n ih =>
    intro read bs as rest
    constructor
    · intro h'
      obtain ⟨a, middle, ha, has⟩ := exists_of_bind (r := r) h'
      obtain ⟨pa, rfl⟩ := (h _ _ _).1 ha
      obtain ⟨more, rfl, ⟨rfl, all⟩, rfl⟩ := (ih _ _ _ _).1 has
      refine ⟨a :: more, by simp, ⟨rfl, List.forall_mem_cons.2 ⟨pa, all⟩⟩, ?_⟩
      rw [List.flatMap_cons, List.append_assoc]
    · rintro ⟨more, rfl, ⟨length, all⟩, rfl⟩
      cases more with
      | nil => cases length
      | cons a more =>
        obtain ⟨pa, all⟩ := List.forall_mem_cons.1 all
        have last := (ih (a :: read) _ _ rest).2 ⟨more, rfl, ⟨Nat.succ.inj length, all⟩, rfl⟩
        rw [List.flatMap_cons, List.append_assoc]
        refine (bind_of_ok (h.reads pa _)).trans (last.trans ?_)
        rw [List.reverse_cons, List.append_assoc, List.singleton_append]

end Exact

end Reader

namespace Item

open Reader (Exact)

/-! ## Items with one form -/

theorem exact_byte : Exact readByte (fun _ => True) ([·]) := by
  refine (Exact.unsigned 1).map UInt8.ofNat UInt8.toNat (fun n hn => ?_) (fun b _ => ?_) fun b _ => ?_
  · exact ⟨trivial, UInt8.toNat_ofNat_of_lt' hn⟩
  · exact ⟨b.toNat_lt, UInt8.ofNat_toNat⟩
  · exact (bigEndian_one b).symm

theorem exact_port : Exact readPort (fun _ => True) (bigEndian 2 ·.toNat) :=
  (Exact.unsigned 2).map UInt16.ofNat UInt16.toNat
    (fun _ hn => ⟨trivial, UInt16.toNat_ofNat_of_lt' hn⟩)
    (fun p _ => ⟨p.toNat_lt, UInt16.ofNat_toNat⟩) fun _ _ => rfl

theorem exact_word : Exact readWord (fun _ => True) (bigEndian 4 ·.toNat) :=
  (Exact.unsigned 4).map UInt32.ofNat UInt32.toNat
    (fun _ hn => ⟨trivial, UInt32.toNat_ofNat_of_lt' hn⟩)
    (fun w _ => ⟨w.toNat_lt, UInt32.ofNat_toNat⟩) fun _ _ => rfl

theorem exact_key : Exact readKey (fun _ => True) (bigEndian 8 ·.raw.toNat) :=
  (Exact.unsigned 8).map (fun n => Key.mk (.ofNat n)) (fun key => key.raw.toNat)
    (fun _ hn => ⟨trivial, UInt64.toNat_ofNat_of_lt' hn⟩)
    (fun key _ => ⟨key.raw.toNat_lt, congrArg Key.mk UInt64.ofNat_toNat⟩) fun _ _ => rfl

theorem exact_number : Exact readNumber (fun _ => True) encodeNumber := by
  refine (Exact.signed 4).map Int32.ofInt Int32.toInt (fun n hn => ⟨trivial, ?_⟩) (fun n _ => ?_)
    fun _ _ => rfl
  · have pow : Nat.pow 256 4 = 4294967296 := rfl
    rw [pow] at hn
    exact Int32.toInt_ofInt_of_le (by omega) (by omega)
  · have := n.le_toInt
    have := n.toInt_lt
    exact ⟨⟨by simp; omega, by simp; omega⟩, Int32.ofInt_toInt n⟩

theorem exact_id : Exact readId (fun _ => True) encodeId := by
  have grand (proc parent : ProcessorNumber) :
      Exact (do return ProcessorId.mk proc parent (← readNumber))
        (fun id => id.proc = proc ∧ id.parent = parent) (encodeNumber ·.grand) := by
    refine exact_number.map _ ProcessorId.grand (fun _ _ => ⟨⟨rfl, rfl⟩, rfl⟩) ?_ fun _ _ => rfl
    rintro ⟨proc, parent, grand⟩ ⟨rfl, rfl⟩
    exact ⟨trivial, rfl⟩
  have parent (proc : ProcessorNumber) :=
    exact_number.bind (fun parent _ => grand proc parent) ProcessorId.parent fun _ _ _ h => h.2
  have proc := exact_number.bind (fun proc _ => parent proc) ProcessorId.proc fun _ _ _ h => h.2.1
  exact proc.congr (by simp) fun id _ => (List.append_assoc ..).symm

end Item

end SharedVariables.Wire
