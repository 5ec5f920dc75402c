import Mathlib.Algebra.GroupWithZero.Nat
import SharedVariables.Proofs.Text.Utf8
import SharedVariables.Proofs.Wire.Reader
import SharedVariables.Wire.Item

/-!
# What an item is written as

Only what stands behind a two-byte length can be too large for the wire: `Item.Fits` says that it is
not. An item that fits is written (`Item.encode_fits`), its bytes are the ones from which its kind is
read (`Item.reads`), and there is a bound on their number for each kind (`Item.length_encode_le`). The
same for the items of a message (`Item.encodeAll_fits`, `Item.readsAll`).
-/

namespace SharedVariables

namespace Wire

/-- A signed number comes back from its two's complement. -/
theorem signExtend_emod {k : Nat} {n : Int} (hl : -Nat.pow 256 k ≤ 2 * n) (hh : 2 * n < Nat.pow 256 k) :
    signExtend k (n % Nat.pow 256 k).toNat = n := by
  rw [signExtend]
  generalize Nat.pow 256 k = m at hl hh ⊢
  rcases Int.lt_or_le n 0 with hn | hn
  · have hmod : n % m = n + m := by
      rw [← Int.add_emod_right, Int.emod_eq_of_lt (by omega) (by omega)]
    rw [hmod, if_neg (by omega)]
    omega
  · have hmod : n % m = n := Int.emod_eq_of_lt hn (by omega)
    rw [hmod, if_pos (by omega)]
    omega

namespace Item

open Reader (Reads)

/-! ## Items of fixed size -/

theorem reads_word (w : UInt32) : Reads readWord (bigEndian 4 w.toNat) w := by
  have := (Reads.unsigned (k := 4) w.toNat_lt).map UInt32.ofNat
  rwa [UInt32.ofNat_toNat] at this

theorem reads_port (p : UInt16) : Reads readPort (bigEndian 2 p.toNat) p := by
  have := (Reads.unsigned (k := 2) p.toNat_lt).map UInt16.ofNat
  rwa [UInt16.ofNat_toNat] at this

theorem reads_key (key : Key) : Reads readKey (bigEndian 8 key.raw.toNat) key := by
  have := (Reads.unsigned (k := 8) key.raw.toNat_lt).map fun n => Key.mk (.ofNat n)
  rwa [UInt64.ofNat_toNat] at this

theorem bigEndian_one (b : UInt8) : bigEndian 1 b.toNat = [b] := by
  simp [bigEndian]

theorem reads_byte (b : UInt8) : Reads readByte [b] b := by
  have := (Reads.unsigned (k := 1) b.toNat_lt).map UInt8.ofNat
  rwa [UInt8.ofNat_toNat, bigEndian_one] at this

theorem reads_flag (b : Bool) : Reads (read .flag) (encodeFlag b) b := by
  have := (reads_byte (if b then 1 else 0)).map fun b => decide (b ≠ 0)
  cases b <;> exact this

theorem reads_number (n : Int32) : Reads readNumber (encodeNumber n) n := by
  have hn := n.le_toInt
  have hn' := n.toInt_lt
  have hlt : (n.toInt % Nat.pow 256 4).toNat < Nat.pow 256 4 := by
    rw [Int.toNat_lt (Int.emod_nonneg _ (by decide))]
    exact Int.emod_lt_of_pos _ (by decide)
  have back : signExtend 4 (n.toInt % Nat.pow 256 4).toNat = n.toInt :=
    signExtend_emod (by simp; omega) (by simp; omega)
  have := ((Reads.unsigned hlt).map (signExtend 4)).map Int32.ofInt
  rwa [back, Int32.ofInt_toInt] at this

theorem length_encodeNumber (n : Int32) : (encodeNumber n).length = 4 := length_bigEndian 4 _

theorem reads_id (id : ProcessorId) : Reads readId (encodeId id) id := by
  have grand := (reads_number id.grand).map fun grand => ProcessorId.mk id.proc id.parent grand
  rw [encodeId, List.append_assoc]
  exact (reads_number id.proc).bind ((reads_number id.parent).bind grand)

theorem length_encodeId (id : ProcessorId) : (encodeId id).length = 12 := by
  simp [encodeId, length_encodeNumber]

theorem reads_control (c : Control) : Reads (read .control) (bigEndian 1 c.toNat) c := by
  have hlt : c.toNat < Nat.pow 256 1 := Nat.lt_trans c.toNat_lt (by decide)
  have := (Reads.unsigned hlt).map Control.ofNat
  rwa [Control.ofNat_toNat] at this

/-! ## Items behind a length -/

theorem reads_text {s : String} (h : s.utf8ByteSize ≤ maxStringLength) :
    Reads readText (bigEndian 2 (Text.utf8Encode s).length ++ Text.utf8Encode s) s := by
  rw [← Text.length_utf8Encode] at h
  have := (Reads.string h).map Text.utf8Decode
  rwa [Text.utf8Decode_utf8Encode] at this

theorem reads_name (n : Name) : Reads readName (encodeName n) n := by
  have short : n.points.length < Nat.pow 256 2 := Nat.lt_of_le_of_lt n.length_le (by decide)
  refine (Reads.unsigned short).bind ?_
  have points := (Reads.replicate fun p (_ : p ∈ n.points) => reads_word p).map Name.ofPoints
  rw [Name.ofPoints_points] at points
  rwa [if_pos n.length_le]

theorem length_encodeName_le (n : Name) : (encodeName n).length ≤ 258 := by
  have : n.points.length ≤ 64 := n.length_le
  simp only [encodeName, List.length_append, List.length_flatMap, length_bigEndian,
    List.map_const', List.sum_replicate_nat]
  omega

theorem length_flatMap_encodeNumber (ns : List ProcessorNumber) :
    (ns.flatMap encodeNumber).length = 4 * ns.length := by
  simp only [List.length_flatMap, length_encodeNumber, List.map_const', List.sum_replicate_nat,
    Nat.mul_comm]

theorem length_flatMap_encodeName_le (ns : List Name) :
    (ns.flatMap encodeName).length ≤ 258 * ns.length := by
  induction ns with
  | nil => simp
  | cons n ns ih =>
    have := length_encodeName_le n
    rw [List.flatMap_cons, List.length_append, List.length_cons]
    omega

theorem unpackNumbers_encode (ns : List ProcessorNumber) :
    unpackNumbers (ns.flatMap encodeNumber) = .ok ns := by
  have whole := (Reads.replicate fun n (_ : n ∈ ns) => reads_number n).whole []
  rw [List.append_nil] at whole
  rw [unpackNumbers, length_flatMap_encodeNumber, Nat.mul_div_cancel_left _ (by decide), whole]

theorem reads_numbers {ns : List ProcessorNumber}
    (h : (ns.flatMap encodeNumber).length ≤ maxStringLength) :
    Reads readNumbers
      (bigEndian 2 (ns.flatMap encodeNumber).length ++ ns.flatMap encodeNumber) ns := by
  rw [← List.append_nil (bigEndian 2 _ ++ _)]
  refine (Reads.string h).bind ?_
  rw [unpackNumbers_encode]
  exact Reads.pure ns

theorem reads_names {ns : List Name} (h : ns.length ≤ maxStringLength) :
    Reads (read .names) (bigEndian 2 ns.length ++ ns.flatMap encodeName) ns :=
  (Reads.unsigned (Nat.lt_succ_of_le h)).bind (Reads.replicate fun n _ => reads_name n)

/-! ## Items of every kind -/

/-- What the two-byte lengths leave room for: 65535 bytes of text, of a value or of packed numbers,
and 65535 names. -/
def Fits : (item : Item) → item.Value → Prop
  | .text, s => s.utf8ByteSize ≤ 65535
  | .listing, s => s.utf8ByteSize ≤ 65535
  | .blob, bs => bs.length ≤ 65535
  | .numbers, ns => ns.length ≤ 16383
  | .names, ns => ns.length ≤ 65535
  | _, _ => True

theorem encodeString_eq_ok_iff {bs bytes : Bytes} :
    encodeString bs = .ok bytes ↔
      bs.length ≤ maxStringLength ∧ bytes = bigEndian 2 bs.length ++ bs := by
  rw [encodeString]
  split <;> grind

theorem encodeNames_eq_ok_iff {ns : List Name} {bytes : Bytes} :
    encodeNames ns = .ok bytes ↔
      ns.length ≤ maxStringLength ∧ bytes = bigEndian 2 ns.length ++ ns.flatMap encodeName := by
  rw [encodeNames]
  split <;> grind

/-- An item is written exactly when it fits. -/
theorem encode_fits (item : Item) (value : item.Value) :
    (∃ bytes, item.encode value = .ok bytes) ↔ item.Fits value := by
  cases item with
  | text | listing => simp [encode, Fits, encodeString_eq_ok_iff, maxStringLength]
  | blob => simp [encode, Fits, encodeString_eq_ok_iff, maxStringLength]
  | numbers =>
    simp only [encode, Fits, encodeString_eq_ok_iff, maxStringLength, length_flatMap_encodeNumber,
      exists_and_left, exists_eq, and_true]
    omega
  | names => simp [encode, Fits, encodeNames_eq_ok_iff, maxStringLength]
  | _ => simp [encode, Fits]

/-- The bytes of an item are those from which it is read. -/
theorem reads {item : Item} {value : item.Value} {bytes : Bytes}
    (h : item.encode value = .ok bytes) : Reads item.read bytes value := by
  cases item with
  | text | listing =>
    obtain ⟨fits, rfl⟩ := encodeString_eq_ok_iff.1 h
    exact reads_text (by rwa [Text.length_utf8Encode] at fits)
  | blob =>
    obtain ⟨fits, rfl⟩ := encodeString_eq_ok_iff.1 h
    exact Reads.string fits
  | numbers =>
    obtain ⟨fits, rfl⟩ := encodeString_eq_ok_iff.1 h
    exact reads_numbers fits
  | names =>
    obtain ⟨fits, rfl⟩ := encodeNames_eq_ok_iff.1 h
    exact reads_names fits
  | key => obtain rfl := Except.ok.inj h; exact reads_key value
  | number => obtain rfl := Except.ok.inj h; exact reads_number value
  | word => obtain rfl := Except.ok.inj h; exact reads_word value
  | port => obtain rfl := Except.ok.inj h; exact reads_port value
  | flag => obtain rfl := Except.ok.inj h; exact reads_flag value
  | id => obtain rfl := Except.ok.inj h; exact reads_id value
  | name => obtain rfl := Except.ok.inj h; exact reads_name value
  | control => obtain rfl := Except.ok.inj h; exact reads_control value
  | coupling =>
    obtain rfl := Except.ok.inj h
    have := (reads_byte value.code).map Coupling.ofCode
    rwa [Coupling.ofCode_code] at this
  | state =>
    obtain rfl := Except.ok.inj h
    have := (reads_byte value.code).map AccessState.ofCode
    rwa [AccessState.ofCode_code] at this
  | events => obtain rfl := Except.ok.inj h; exact (reads_word value.bits).map Event.mk

/-- The most bytes of an item. -/
def maxLength : Item → Nat
  | .key => 8
  | .number => 4
  | .word => 4
  | .port => 2
  | .flag => 1
  | .text => 65537
  | .listing => 65537
  | .blob => 65537
  | .id => 12
  | .name => 258
  | .control => 1
  | .coupling => 1
  | .state => 1
  | .events => 4
  | .numbers => 65537
  | .names => 16908032

theorem length_encode_le {item : Item} {value : item.Value} {bytes : Bytes}
    (h : item.encode value = .ok bytes) : bytes.length ≤ item.maxLength := by
  cases item with
  | text | listing | blob | numbers =>
    obtain ⟨fits, rfl⟩ := encodeString_eq_ok_iff.1 h
    simp only [maxStringLength] at fits
    simp only [List.length_append, length_bigEndian, maxLength]
    omega
  | names =>
    obtain ⟨fits, rfl⟩ := encodeNames_eq_ok_iff.1 h
    have := length_flatMap_encodeName_le value
    simp only [maxStringLength] at fits
    simp only [List.length_append, length_bigEndian, maxLength]
    omega
  | name => obtain rfl := Except.ok.inj h; exact length_encodeName_le value
  | id => obtain rfl := Except.ok.inj h; exact Nat.le_of_eq (length_encodeId value)
  | number => obtain rfl := Except.ok.inj h; exact Nat.le_of_eq (length_encodeNumber value)
  | key | word | port | flag | control | coupling | state | events =>
    obtain rfl := Except.ok.inj h
    simp [maxLength, encodeFlag]

/-! ## The items of a message -/

/-- Every item fits. -/
def AllFit : (items : List Item) → Values items → Prop
  | [], () => True
  | item :: items, (value, values) => item.Fits value ∧ AllFit items values

theorem encodeAll_cons_eq_ok_iff {item : Item} {items : List Item} {value : item.Value}
    {values : Values items} {bytes : Bytes} :
    encodeAll (item :: items) (value, values) = .ok bytes ↔
      ∃ b rest, item.encode value = .ok b ∧ encodeAll items values = .ok rest ∧
        bytes = b ++ rest := by
  rw [encodeAll]
  cases item.encode value with
  | error e => simp [bind, Except.bind]
  | ok b =>
    cases encodeAll items values with
    | error e => simp [bind, Except.bind]
    | ok rest => simp [bind, Except.bind, pure, Except.pure, eq_comm]

theorem encodeAll_fits (items : List Item) (values : Values items) :
    (∃ bytes, encodeAll items values = .ok bytes) ↔ AllFit items values := by
  induction items with
  | nil => simp [encodeAll, AllFit]
  | cons item items ih =>
    obtain ⟨value, values⟩ := values
    rw [AllFit, ← encode_fits, ← ih]
    simp only [encodeAll_cons_eq_ok_iff]
    constructor
    · rintro ⟨_, b, rest, hb, hrest, -⟩
      exact ⟨⟨b, hb⟩, rest, hrest⟩
    · rintro ⟨⟨b, hb⟩, rest, hrest⟩
      exact ⟨_, b, rest, hb, hrest, rfl⟩

theorem readsAll {items : List Item} {values : Values items} {bytes : Bytes}
    (h : encodeAll items values = .ok bytes) : Reads (readAll items) bytes values := by
  induction items generalizing bytes with
  | nil =>
    obtain rfl := Except.ok.inj h
    exact Reads.pure ()
  | cons item items ih =>
    obtain ⟨value, values⟩ := values
    obtain ⟨b, rest, hb, hrest, rfl⟩ := encodeAll_cons_eq_ok_iff.1 h
    exact (reads hb).bind ((ih hrest).map fun values => (value, values))

theorem length_encodeAll_le {items : List Item} {values : Values items} {bytes : Bytes}
    (h : encodeAll items values = .ok bytes) : bytes.length ≤ (items.map maxLength).sum := by
  induction items generalizing bytes with
  | nil =>
    obtain rfl := Except.ok.inj h
    simp
  | cons item items ih =>
    obtain ⟨value, values⟩ := values
    obtain ⟨b, rest, hb, hrest, rfl⟩ := encodeAll_cons_eq_ok_iff.1 h
    have := length_encode_le hb
    have := ih hrest
    simp only [List.length_append, List.map_cons, List.sum_cons]
    omega

end Item

end Wire

end SharedVariables
