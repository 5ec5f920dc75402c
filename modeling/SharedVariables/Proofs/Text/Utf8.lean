import SharedVariables.Text.Utf8

/-!
# Texts as bytes and back

The bytes of a character take the reader from one character to the next (`utf8Run_encodeChar`): the
first byte says how many more there are and bounds the second one, and each of those adds six bits.
So the bytes of a text read as that text (`utf8Decode_utf8Encode`).
-/

namespace SharedVariables.Text

namespace Utf8State

/-! ## One byte -/

theorem lead_one {b : UInt8} (h : b < 0x80) : lead b = ([Char.ofNat b.toNat], idle) := by
  grind [lead]

theorem lead_two {b : UInt8} (hl : 0xC2 ≤ b) (hh : b < 0xE0) :
    lead b = ([], ⟨1, b.toNat % 32, 0x80, 0xBF⟩) := by
  grind [lead]

theorem lead_three {b : UInt8} (hl : 0xE0 ≤ b) (hh : b < 0xF0) :
    lead b =
      ([], ⟨2, b.toNat % 16, if b = 0xE0 then 0xA0 else 0x80, if b = 0xED then 0x9F else 0xBF⟩) := by
  grind [lead]

theorem lead_four {b : UInt8} (hl : 0xF0 ≤ b) (hh : b < 0xF5) :
    lead b =
      ([], ⟨3, b.toNat % 8, if b = 0xF0 then 0x90 else 0x80, if b = 0xF4 then 0x8F else 0xBF⟩) := by
  grind [lead]

theorem feed_idle (b : UInt8) : idle.feed b = lead b := rfl

/-- A byte within the bounds adds its low six bits; the last one completes the character. -/
theorem feed_within {s : Utf8State} {b : UInt8} (ho : s.owed ≠ 0) (hl : s.low ≤ b)
    (hh : b ≤ s.high) :
    s.feed b =
      if s.owed = 1 then ([Char.ofNat (s.value * 64 + b.toNat % 64)], idle)
      else ([], ⟨s.owed - 1, s.value * 64 + b.toNat % 64, 0x80, 0xBF⟩) := by
  rw [feed, if_neg ho, if_pos ⟨hl, hh⟩]

end Utf8State

open Utf8State

/-! ## One character -/

@[simp] theorem utf8Run_cons (s : Utf8State) (read : List Char) (b : UInt8) (bs : Bytes) :
    utf8Run s read (b :: bs) = utf8Run (s.feed b).2 ((s.feed b).1.reverse ++ read) bs := rfl

theorem toNat_ofNat_of_lt {n : Nat} (h : n < 256) : (UInt8.ofNat n).toNat = n :=
  UInt8.toNat_ofNat_of_lt' h

theorem utf8Run_one {v : Nat} (hh : v < 0x80) (read : List Char) (bs : Bytes) :
    utf8Run idle read (.ofNat v :: bs) = utf8Run idle (Char.ofNat v :: read) bs := by
  have hb : (UInt8.ofNat v).toNat = v := toNat_ofNat_of_lt (by omega)
  rw [utf8Run_cons, feed_idle, lead_one (by rw [UInt8.lt_iff_toNat_lt, hb]; exact hh), hb]
  rfl

/-- A byte after the first holds six bits, above `0x80`. -/
theorem feed_tail {owed value : Nat} {low high : UInt8} {n : Nat} (hl : low.toNat ≤ n % 64 + 128)
    (hh : n % 64 + 128 ≤ high.toNat) :
    feed ⟨owed + 1, value, low, high⟩ (.ofNat (n % 64 + 128)) =
      if owed = 0 then ([Char.ofNat (value * 64 + n % 64)], idle)
      else ([], ⟨owed, value * 64 + n % 64, 0x80, 0xBF⟩) := by
  have hn : (UInt8.ofNat (n % 64 + 128)).toNat = n % 64 + 128 := toNat_ofNat_of_lt (by omega)
  have hm : (n % 64 + 128) % 64 = n % 64 := by omega
  rw [feed_within (Nat.succ_ne_zero owed) (by rw [UInt8.le_iff_toNat_le, hn]; exact hl)
    (by rw [UInt8.le_iff_toNat_le, hn]; exact hh), hn, hm]
  simp

/-- The last byte of a character, of which `value` has been read. -/
theorem utf8Run_last (read : List Char) (value n : Nat) (bs : Bytes) :
    utf8Run ⟨1, value, 0x80, 0xBF⟩ read (.ofNat (n % 64 + 128) :: bs) =
      utf8Run idle (Char.ofNat (value * 64 + n % 64) :: read) bs := by
  have hn : n % 64 + 128 ≤ 0xBF := by omega
  rw [utf8Run_cons, feed_tail (Nat.le_add_left 128 _) hn]
  rfl

/-- A byte before the last one. -/
theorem utf8Run_tail {value : Nat} {low high : UInt8} {n : Nat} (owed : Nat)
    (hl : low.toNat ≤ n % 64 + 128) (hh : n % 64 + 128 ≤ high.toNat) (read : List Char)
    (bs : Bytes) :
    utf8Run ⟨owed + 2, value, low, high⟩ read (.ofNat (n % 64 + 128) :: bs) =
      utf8Run ⟨owed + 1, value * 64 + n % 64, 0x80, 0xBF⟩ read bs := by
  rw [utf8Run_cons, feed_tail hl hh]
  rfl

theorem utf8Run_two {v : Nat} (hl : 0x80 ≤ v) (hh : v < 0x800) (read : List Char) (bs : Bytes) :
    utf8Run idle read (.ofNat (v / 64 % 32 + 192) :: .ofNat (v % 64 + 128) :: bs) =
      utf8Run idle (Char.ofNat v :: read) bs := by
  have hb : (UInt8.ofNat (v / 64 % 32 + 192)).toNat = v / 64 % 32 + 192 :=
    toNat_ofNat_of_lt (by omega)
  have first : lead (.ofNat (v / 64 % 32 + 192)) = ([], ⟨1, v / 64, 0x80, 0xBF⟩) := by
    rw [lead_two, hb, show (v / 64 % 32 + 192) % 32 = v / 64 by omega]
    · rw [UInt8.le_iff_toNat_le, hb]
      exact (by omega : 194 ≤ v / 64 % 32 + 192)
    · rw [UInt8.lt_iff_toNat_lt, hb]
      exact (by omega : v / 64 % 32 + 192 < 224)
  rw [utf8Run_cons, feed_idle, first]
  refine (utf8Run_last read (v / 64) v bs).trans ?_
  rw [show v / 64 * 64 + v % 64 = v by omega]

/-- The second byte of three keeps out the surrogates and what two bytes are enough for. -/
theorem utf8Run_three {v : Nat} (hl : 0x800 ≤ v) (hh : v < 0x10000)
    (valid : v < 0xD800 ∨ 0xDFFF < v) (read : List Char) (bs : Bytes) :
    utf8Run idle read
        (.ofNat (v / 4096 % 16 + 224) :: .ofNat (v / 64 % 64 + 128) :: .ofNat (v % 64 + 128) :: bs) =
      utf8Run idle (Char.ofNat v :: read) bs := by
  have hb : (UInt8.ofNat (v / 4096 % 16 + 224)).toNat = v / 4096 % 16 + 224 :=
    toNat_ofNat_of_lt (by omega)
  have is (n : Nat) (hn : n < 256) :
      UInt8.ofNat (v / 4096 % 16 + 224) = .ofNat n ↔ v / 4096 % 16 + 224 = n := by
    rw [← UInt8.toNat_inj, hb, toNat_ofNat_of_lt hn]
  obtain ⟨low, high, first, hlow, hhigh⟩ : ∃ low high : UInt8,
      lead (.ofNat (v / 4096 % 16 + 224)) = ([], ⟨2, v / 4096, low, high⟩) ∧
        low.toNat ≤ v / 64 % 64 + 128 ∧ v / 64 % 64 + 128 ≤ high.toNat := by
    refine ⟨if UInt8.ofNat (v / 4096 % 16 + 224) = 0xE0 then 0xA0 else 0x80,
      if UInt8.ofNat (v / 4096 % 16 + 224) = 0xED then 0x9F else 0xBF, ?_, ?_, ?_⟩
    · rw [lead_three, hb, show (v / 4096 % 16 + 224) % 16 = v / 4096 by omega]
      · rw [UInt8.le_iff_toNat_le, hb]
        exact (by omega : 224 ≤ v / 4096 % 16 + 224)
      · rw [UInt8.lt_iff_toNat_lt, hb]
        exact (by omega : v / 4096 % 16 + 224 < 240)
    · split <;> rename_i h <;> rw [show (0xE0 : UInt8) = .ofNat 224 from rfl, is 224 (by decide)] at h
      · exact (by omega : 160 ≤ v / 64 % 64 + 128)
      · exact (by omega : 128 ≤ v / 64 % 64 + 128)
    · split <;> rename_i h <;> rw [show (0xED : UInt8) = .ofNat 237 from rfl, is 237 (by decide)] at h
      · exact (by omega : v / 64 % 64 + 128 ≤ 159)
      · exact (by omega : v / 64 % 64 + 128 ≤ 191)
  rw [utf8Run_cons, feed_idle, first]
  refine (utf8Run_tail 0 hlow hhigh read _).trans ?_
  refine (utf8Run_last read (v / 4096 * 64 + v / 64 % 64) v bs).trans ?_
  rw [show (v / 4096 * 64 + v / 64 % 64) * 64 + v % 64 = v by omega]

/-- The second byte of four keeps out what is beyond the last character and what three bytes are
enough for. -/
theorem utf8Run_four {v : Nat} (hl : 0x10000 ≤ v) (hh : v < 0x110000) (read : List Char)
    (bs : Bytes) :
    utf8Run idle read
        (.ofNat (v / 262144 % 8 + 240) :: .ofNat (v / 4096 % 64 + 128) ::
          .ofNat (v / 64 % 64 + 128) :: .ofNat (v % 64 + 128) :: bs) =
      utf8Run idle (Char.ofNat v :: read) bs := by
  have hb : (UInt8.ofNat (v / 262144 % 8 + 240)).toNat = v / 262144 % 8 + 240 :=
    toNat_ofNat_of_lt (by omega)
  have is (n : Nat) (hn : n < 256) :
      UInt8.ofNat (v / 262144 % 8 + 240) = .ofNat n ↔ v / 262144 % 8 + 240 = n := by
    rw [← UInt8.toNat_inj, hb, toNat_ofNat_of_lt hn]
  obtain ⟨low, high, first, hlow, hhigh⟩ : ∃ low high : UInt8,
      lead (.ofNat (v / 262144 % 8 + 240)) = ([], ⟨3, v / 262144, low, high⟩) ∧
        low.toNat ≤ v / 4096 % 64 + 128 ∧ v / 4096 % 64 + 128 ≤ high.toNat := by
    refine ⟨if UInt8.ofNat (v / 262144 % 8 + 240) = 0xF0 then 0x90 else 0x80,
      if UInt8.ofNat (v / 262144 % 8 + 240) = 0xF4 then 0x8F else 0xBF, ?_, ?_, ?_⟩
    · rw [lead_four, hb, show (v / 262144 % 8 + 240) % 8 = v / 262144 by omega]
      · rw [UInt8.le_iff_toNat_le, hb]
        exact (by omega : 240 ≤ v / 262144 % 8 + 240)
      · rw [UInt8.lt_iff_toNat_lt, hb]
        exact (by omega : v / 262144 % 8 + 240 < 245)
    · split <;> rename_i h <;> rw [show (0xF0 : UInt8) = .ofNat 240 from rfl, is 240 (by decide)] at h
      · exact (by omega : 144 ≤ v / 4096 % 64 + 128)
      · exact (by omega : 128 ≤ v / 4096 % 64 + 128)
    · split <;> rename_i h <;> rw [show (0xF4 : UInt8) = .ofNat 244 from rfl, is 244 (by decide)] at h
      · exact (by omega : v / 4096 % 64 + 128 ≤ 143)
      · exact (by omega : v / 4096 % 64 + 128 ≤ 191)
  have hmid : v / 64 % 64 + 128 ≤ 0xBF := by omega
  rw [utf8Run_cons, feed_idle, first]
  refine (utf8Run_tail 1 hlow hhigh read _).trans ?_
  refine (utf8Run_tail 0 (Nat.le_add_left 128 _) hmid read _).trans ?_
  refine (utf8Run_last read ((v / 262144 * 64 + v / 4096 % 64) * 64 + v / 64 % 64) v bs).trans ?_
  rw [show ((v / 262144 * 64 + v / 4096 % 64) * 64 + v / 64 % 64) * 64 + v % 64 = v by omega]

/-- The bytes of a character complete that character and no other. -/
theorem utf8Run_encodeChar (c : Char) (read : List Char) (bs : Bytes) :
    utf8Run idle read (String.utf8EncodeChar c ++ bs) = utf8Run idle (c :: read) bs := by
  obtain ⟨v, hv⟩ : ∃ v, c.val.toNat = v := ⟨_, rfl⟩
  have hc : Char.ofNat v = c := hv ▸ Char.ofNat_toNat c
  have valid : v < 0xD800 ∨ 0xDFFF < v ∧ v < 0x110000 := hv ▸ c.valid
  simp only [String.utf8EncodeChar, hv]
  split
  · have := utf8Run_one (v := v) (by omega) read bs
    rwa [hc] at this
  split
  · have := utf8Run_two (v := v) (by omega) (by omega) read bs
    rwa [hc] at this
  split
  · have := utf8Run_three (v := v) (by omega) (by omega) (by omega) read bs
    rwa [hc] at this
  · have := utf8Run_four (v := v) (by omega) (by omega) read bs
    rwa [hc] at this

/-! ## A text -/

theorem utf8Run_encode (cs : List Char) (read : List Char) :
    utf8Run idle read (cs.flatMap String.utf8EncodeChar) = (cs.reverse ++ read, idle) := by
  induction cs generalizing read with
  | nil => rfl
  | cons c cs ih =>
    rw [List.flatMap_cons, utf8Run_encodeChar, ih, List.reverse_cons, List.append_assoc]
    rfl

@[simp] theorem utf8Decode_utf8Encode (s : String) : utf8Decode (utf8Encode s) = s := by
  simp only [utf8Decode, utf8Encode, utf8Run_encode, finish]
  simp [idle]

@[simp] theorem length_utf8Encode (s : String) : (utf8Encode s).length = s.utf8ByteSize := by
  rw [utf8Encode, ← List.size_toByteArray, ← List.utf8Encode, String.utf8Encode_toList]
  rfl

end SharedVariables.Text
