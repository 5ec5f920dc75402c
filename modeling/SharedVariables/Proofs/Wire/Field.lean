import Mathlib.Algebra.GroupWithZero.Nat
import Mathlib.Algebra.Ring.Int.Defs
import Mathlib.Data.List.Infix
import SharedVariables.Proofs.Wire.Reader
import SharedVariables.Wire.Field

/-!
# Fields one after another

A `TypedField` is a field together with the type that it is read back with. Its bytes are the ones from
which that type reads it (`TypedField.reads`), except that an integer is read as what its width keeps of
it, as a word of so many bits (`TypedField.kept`). So fields that are written one after another are read
back one after another (`readEach_writeEach`). What a failing read leaves is said by
`FieldType.read_eq_error_iff`.
-/

namespace SharedVariables.Wire

/-! ## Numbers in words -/

theorem pow_256 (k : Nat) : Nat.pow 256 k = 2 ^ (8 * k) := by
  rw [Nat.pow_mul]
  rfl

theorem toNat_word (k : Nat) (n : Int) :
    (BitVec.ofInt (8 * k) n).toNat = (n % Nat.pow 256 k).toNat := by
  rw [BitVec.toNat_ofInt, pow_256]

/-- A sign is restored as that of a word. -/
theorem toInt_word (k : Nat) (n : Int) :
    (BitVec.ofInt (8 * k) n).toInt = signExtend k (n % Nat.pow 256 k).toNat := by
  have pos : (0 : Int) < Nat.pow 256 k := Int.natCast_pos.2 (Nat.pow_pos (by decide))
  have nonneg := Int.emod_nonneg n (Int.ne_of_gt pos)
  have below := Int.emod_lt_of_pos n pos
  rw [BitVec.toInt_ofInt, Int.bmod, signExtend, ← pow_256]
  generalize n % Nat.pow 256 k = r at nonneg below
  generalize Nat.pow 256 k = m at pos below
  split <;> split <;> omega

namespace Reader

variable {α β : Type} {r : Reader α} {n : Nat}

/-! ## Readers of so many bytes -/

/-- `r` takes `n` bytes, or none if there are not as many. -/
structure Takes (r : Reader α) (n : Nat) : Prop where
  enough : ∀ bs : Bytes, n ≤ bs.length → ∃ a, r bs = (.ok a, bs.drop n)
  short : ∀ bs : Bytes, bs.length < n → r bs = (.error (.truncated n bs.length), bs)

namespace Takes

theorem take_of_le {bs : Bytes} (h : n ≤ bs.length) : take n bs = (.ok (bs.take n), bs.drop n) := by
  have whole := (Reads.take (bs.take n)).whole (bs.drop n)
  rwa [List.length_take_of_le h, List.take_append_drop] at whole

protected theorem take (n : Nat) : Takes (take n) n where
  enough _ h := ⟨_, take_of_le h⟩
  short bs h := by rw [Reader.take, splitAt?_of_lt h]

protected theorem map (h : Takes r n) (g : α → β) : Takes (do return g (← r)) n where
  enough bs hbs := by
    obtain ⟨a, ha⟩ := h.enough bs hbs
    exact ⟨g a, bind_of_ok ha⟩
  short bs hbs := bind_of_error (h.short bs hbs)

theorem eq_error_iff (h : Takes r n) {bs left : Bytes} {e : Error} :
    r bs = (.error e, left) ↔ bs.length < n ∧ e = .truncated n bs.length ∧ left = bs := by
  rcases Nat.lt_or_ge bs.length n with short | enough
  · rw [h.short bs short, Prod.mk.injEq, Except.error.injEq, and_iff_right short, eq_comm,
      @eq_comm _ left]
  · obtain ⟨a, ha⟩ := h.enough bs enough
    rw [ha]
    refine iff_of_false nofun fun h => ?_
    omega

theorem suffix (h : Takes r n) (bs : Bytes) : (r bs).2 <:+ bs := by
  rcases Nat.lt_or_ge bs.length n with short | enough
  · rw [h.short bs short]
  · obtain ⟨a, ha⟩ := h.enough bs enough
    rw [ha]
    exact List.drop_suffix n bs

end Takes

theorem takes_unsigned (k : Nat) : Takes (unsigned k) k := (Takes.take k).map _

theorem takes_signed (k : Nat) : Takes (signed k) k := (takes_unsigned k).map _

/-- What is made of a result leaves what the reader leaves, and fails where that fails. -/
theorem map_eq (r : Reader α) (g : α → β) (bs : Bytes) :
    (do return g (← r) : Reader β) bs = ((r bs).1.map g, (r bs).2) := by
  show Reader.bind r (fun a => Reader.pure (g a)) bs = _
  rw [Reader.bind]
  rcases r bs with ⟨_ | _, left⟩ <;> rfl

theorem map_eq_error_iff {g : α → β} {bs left : Bytes} {e : Error} :
    (do return g (← r) : Reader β) bs = (.error e, left) ↔ r bs = (.error e, left) := by
  rw [map_eq]
  rcases r bs with ⟨_ | _, _⟩
  · simp only [Except.map, Prod.mk.injEq, Except.error.injEq]
  · exact iff_of_false nofun nofun

/-! ## Byte strings -/

theorem string_of_lt {bs : Bytes} (h : bs.length < 2) :
    string bs = (.error (.truncated 2 bs.length), bs) :=
  bind_of_error ((takes_unsigned 2).short bs h)

/-- The bytes behind a length are taken once the length has been. -/
theorem string_of_le {bs : Bytes} (h : 2 ≤ bs.length) :
    string bs = take (ofBigEndian (bs.take 2)) (bs.drop 2) :=
  bind_of_ok (f := take) (bind_of_ok (Takes.take_of_le h))

/-- A byte string is short of its length, or of as many bytes as that announces. -/
theorem string_eq_error_iff {bs left : Bytes} {e : Error} :
    string bs = (.error e, left) ↔
      bs.length < 2 ∧ e = .truncated 2 bs.length ∧ left = bs ∨
        2 ≤ bs.length ∧ left = bs.drop 2 ∧ left.length < ofBigEndian (bs.take 2) ∧
          e = .truncated (ofBigEndian (bs.take 2)) left.length := by
  rcases Nat.lt_or_ge bs.length 2 with short | enough
  · rw [string_of_lt short]
    grind
  · rw [string_of_le enough, (Takes.take _).eq_error_iff]
    grind

theorem string_suffix (bs : Bytes) : (string bs).2 <:+ bs := by
  rcases Nat.lt_or_ge bs.length 2 with short | enough
  · rw [string_of_lt short]
  · rw [string_of_le enough]
    exact ((Takes.take _).suffix _).trans (List.drop_suffix 2 bs)

end Reader

open Reader (Reads Takes)

namespace FieldType

variable {bs left : Bytes} {e : Error}

/-- The bytes that a field cannot do without: those of an integer, or of the length of a string. -/
def minimum : FieldType → Nat
  | .unsigned width => width.size
  | .signed width => width.size
  | .string => 2

/-- A read fails if a field is cut short, and says so. It takes nothing then, but for the length of a
string of which only a part is there. -/
theorem read_eq_error_iff {type : FieldType} :
    type.read bs = (.error e, left) ↔
      bs.length < type.minimum ∧ e = .truncated type.minimum bs.length ∧ left = bs ∨
        type = .string ∧ 2 ≤ bs.length ∧ left = bs.drop 2 ∧ left.length < ofBigEndian (bs.take 2) ∧
          e = .truncated (ofBigEndian (bs.take 2)) left.length := by
  cases type with
  | unsigned width =>
    simp [read, minimum, Reader.map_eq_error_iff, (Reader.takes_unsigned _).eq_error_iff]
  | signed width =>
    simp [read, minimum, Reader.map_eq_error_iff, (Reader.takes_signed _).eq_error_iff]
  | string => simp [read, minimum, Reader.map_eq_error_iff, Reader.string_eq_error_iff]

theorem read_suffix (type : FieldType) (bs : Bytes) : (type.read bs).2 <:+ bs := by
  cases type with
  | unsigned width => exact ((Reader.takes_unsigned width.size).map _).suffix bs
  | signed width => exact ((Reader.takes_signed width.size).map _).suffix bs
  | string =>
    rw [read, Reader.map_eq]
    exact Reader.string_suffix bs

/-- Reads a field of each type in turn, whether or not one before it could be read: what comes of each,
and the input that is left. -/
def readEach : List FieldType → Bytes → List (Except Error Field) × Bytes
  | [], bs => ([], bs)
  | type :: types, bs =>
    let (result, left) := type.read bs
    let (results, left) := readEach types left
    (result :: results, left)

/-- However many fields are read, what is left is an end of the input. -/
theorem readEach_suffix (types : List FieldType) (bs : Bytes) : (readEach types bs).2 <:+ bs := by
  induction types generalizing bs with
  | nil => exact List.suffix_rfl
  | cons type types ih => exact (ih _).trans (type.read_suffix bs)

end FieldType

/-- A field, and the type that it is read back with. -/
inductive TypedField where
  | unsigned (width : Width) (value : Int)
  | signed (width : Width) (value : Int)
  | string (bytes : Bytes)
deriving DecidableEq, Repr

namespace TypedField

def type : TypedField → FieldType
  | .unsigned width _ => .unsigned width
  | .signed width _ => .signed width
  | .string _ => .string

def field : TypedField → Field
  | .unsigned width value => .integer width value
  | .signed width value => .integer width value
  | .string bytes => .string bytes

/-- What the width of a field keeps of its value: the word of so many bits, without or with a sign. -/
def kept : TypedField → Field
  | .unsigned width value => .integer width (BitVec.ofInt (8 * width.size) value).toNat
  | .signed width value => .integer width (BitVec.ofInt (8 * width.size) value).toInt
  | .string bytes => .string bytes

/-- Whether a field can be written: a string must not be too long for its length. -/
def HasRoom : TypedField → Prop
  | .string bytes => bytes.length ≤ 65535
  | _ => True

instance : DecidablePred HasRoom
  | .unsigned _ _ => inferInstanceAs (Decidable True)
  | .signed _ _ => inferInstanceAs (Decidable True)
  | .string _ => inferInstanceAs (Decidable (_ ≤ _))

/-- Whether a value is one of its type. -/
def InRange : TypedField → Prop
  | .unsigned width value => 0 ≤ value ∧ value < 2 ^ (8 * width.size)
  | .signed width value => -2 ^ (8 * width.size - 1) ≤ value ∧ value < 2 ^ (8 * width.size - 1)
  | .string bytes => bytes.length ≤ 65535

theorem hasRoom_iff (f : TypedField) : f.HasRoom ↔ ∃ bytes, f.field.encode = .ok bytes := by
  cases f with
  | unsigned | signed => exact iff_of_true trivial ⟨_, rfl⟩
  | string bytes =>
    simp only [field, Field.encode, encodeString]
    split
    · rename_i fits
      exact iff_of_true fits ⟨_, rfl⟩
    · rename_i long
      exact iff_of_false long nofun

theorem InRange.hasRoom {f : TypedField} (h : f.InRange) : f.HasRoom := by
  cases f with
  | unsigned | signed => trivial
  | string bytes => exact h

theorem kept_eq_field {f : TypedField} (h : f.InRange) : f.kept = f.field := by
  cases f with
  | unsigned width value =>
    have below : value < (2 ^ (8 * width.size) : Nat) := by
      rw [Int.natCast_pow]
      exact h.2
    rw [kept, field, BitVec.toNat_ofInt, Int.emod_eq_of_lt h.1 below, Int.toNat_of_nonneg h.1]
  | signed width value =>
    have bits : 0 < 8 * width.size := by cases width <;> decide
    rw [kept, field, BitVec.toInt_ofInt_eq_self bits h.1 h.2]
  | string bytes => rfl

/-- The bytes of a field are those from which what is kept of it is read. -/
theorem reads {f : TypedField} {bytes : Bytes} (h : f.field.encode = .ok bytes) :
    Reads f.type.read bytes f.kept := by
  have word (width : Width) (value : Int) : Reads (Reader.unsigned width.size)
      (encodeSigned width.size value) (value % Nat.pow 256 width.size).toNat := by
    have pos : (0 : Int) < Nat.pow 256 width.size := Int.natCast_pos.2 (Nat.pow_pos (by decide))
    refine Reads.unsigned ?_
    rw [Int.toNat_lt (Int.emod_nonneg _ (Int.ne_of_gt pos))]
    exact Int.emod_lt_of_pos _ pos
  cases f with
  | unsigned width value =>
    obtain rfl := Except.ok.inj h
    rw [kept, toNat_word]
    exact (word width value).map fun n => Field.integer width n
  | signed width value =>
    obtain rfl := Except.ok.inj h
    rw [kept, toInt_word]
    exact ((word width value).map (signExtend width.size)).map (Field.integer width)
  | string bytes =>
    have fits : bytes.length ≤ maxStringLength := (hasRoom_iff (.string bytes)).2 ⟨_, h⟩
    rw [field, Field.encode, encodeString, if_pos fits] at h
    obtain rfl := Except.ok.inj h
    exact (Reads.string fits).map Field.string

end TypedField

/-! ## Lists of fields -/

namespace Field

variable {written bytes : Bytes}

theorem write_of_ok {field : Field} (h : field.encode = .ok bytes) :
    field.write written = (.ok (), written ++ bytes) := by
  rw [write, h]

/-- A string that is too long is not written. -/
theorem write_of_lt (long : maxStringLength < bytes.length) :
    (string bytes).write written = (.error (.stringTooLong bytes.length), written) := by
  rw [write, encode, encodeString, if_neg (Nat.not_le_of_lt long)]

/-- What is written if each of a list of fields is written in turn, whether or not one before it could be
written. -/
def writeEach (written : Bytes) (fields : List Field) : Bytes :=
  fields.foldl (fun written field => (field.write written).2) written

end Field

theorem TypedField.write_of_not_hasRoom {f : TypedField} (long : ¬f.HasRoom) (written : Bytes) :
    (f.field.write written).2 = written := by
  cases f with
  | unsigned | signed => exact absurd trivial long
  | string bytes => exact congrArg Prod.snd (Field.write_of_lt (Nat.lt_of_not_le long))

open TypedField (HasRoom)

/-- Fields that are written one after another are read one after another, from what has been written of
them. Those that cannot be written are not there. -/
theorem readEach_writeEach (fields : List TypedField) (before rest : Bytes) :
    ∃ bytes, Field.writeEach before (fields.map TypedField.field) = before ++ bytes ∧
      FieldType.readEach ((fields.filter (HasRoom ·)).map TypedField.type) (bytes ++ rest) =
        ((fields.filter (HasRoom ·)).map fun f => .ok f.kept, rest) := by
  induction fields generalizing before with
  | nil => exact ⟨[], (List.append_nil _).symm, rfl⟩
  | cons f fields ih =>
    rw [List.map_cons, Field.writeEach, List.foldl_cons]
    by_cases fits : f.HasRoom
    · obtain ⟨front, encoded⟩ := f.hasRoom_iff.1 fits
      obtain ⟨bytes, written, read⟩ := ih (before ++ front)
      rw [Field.write_of_ok encoded, List.filter_cons_of_pos (by simpa using fits)]
      refine ⟨front ++ bytes, ?_, ?_⟩
      · rw [← List.append_assoc]
        exact written
      · rw [List.map_cons, List.append_assoc, FieldType.readEach, (TypedField.reads encoded).whole]
        simp only [read, List.map_cons]
    · rw [f.write_of_not_hasRoom fits, List.filter_cons_of_neg (by simpa using fits)]
      exact ih before

/-- Fields compose. Of the fields that are written one after another, those which can be written are read
back one after another: a string as it is, and an integer as the word that its width keeps of it, which is
its value if that is in range. Nothing else is read or written then. A string that is too long leaves what
is written as it is. A read fails just if a field is cut short; it says so and leaves the input as it is,
but for the length of a string of which a part is there. However many fields are read, whatever comes of
them, what is left is an end of the input. -/
theorem fields_compose (fields : List TypedField) (before rest : Bytes) :
    (∃ bytes, Field.writeEach before (fields.map TypedField.field) = before ++ bytes ∧
        FieldType.readEach ((fields.filter (HasRoom ·)).map TypedField.type) (bytes ++ rest) =
          ((fields.filter (HasRoom ·)).map fun f => .ok f.kept, rest)) ∧
      (∀ f : TypedField, f.InRange → f.HasRoom ∧ f.kept = f.field) ∧
      (∀ long : Bytes, 65535 < long.length →
        (Field.string long).write before = (.error (.stringTooLong long.length), before)) ∧
      (∀ (type : FieldType) (bs left : Bytes) (e : Error), type.read bs = (.error e, left) ↔
        bs.length < type.minimum ∧ e = .truncated type.minimum bs.length ∧ left = bs ∨
          type = .string ∧ 2 ≤ bs.length ∧ left = bs.drop 2 ∧ left.length < ofBigEndian (bs.take 2) ∧
            e = .truncated (ofBigEndian (bs.take 2)) left.length) ∧
      ∀ (types : List FieldType) (bs : Bytes), (FieldType.readEach types bs).2 <:+ bs :=
  ⟨readEach_writeEach fields before rest, fun _ h => ⟨h.hasRoom, TypedField.kept_eq_field h⟩,
    fun _ => Field.write_of_lt, fun _ _ _ _ => FieldType.read_eq_error_iff, FieldType.readEach_suffix⟩

end SharedVariables.Wire
