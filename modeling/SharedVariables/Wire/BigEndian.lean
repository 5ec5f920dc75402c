import SharedVariables.Text.Utf8

/-!
# Big-endian integers

`bigEndian k n` is the low `k` bytes of `n`, most significant first, and `ofBigEndian` reads such
bytes back, so that `ofBigEndian (bigEndian k n) = n % 256 ^ k`. A signed integer travels as its
two's complement; `signExtend` restores the sign from the top bit.
-/

namespace SharedVariables.Wire

/-- The low `k` bytes of `n`, most significant first. -/
def bigEndian : Nat → Nat → Bytes
  | 0, _ => []
  | k + 1, n => UInt8.ofNat (n / Nat.pow 256 k) :: bigEndian k n

/-- The number that `bs` spell, most significant byte first. -/
def ofBigEndian (bs : Bytes) : Nat :=
  bs.foldl (fun n b => n * 256 + b.toNat) 0

/-- The signed number whose two's complement in `k` bytes is `n`. -/
def signExtend (k n : Nat) : Int :=
  if 2 * n < Nat.pow 256 k then n else n - Nat.pow 256 k

@[simp] theorem length_bigEndian (k n : Nat) : (bigEndian k n).length = k := by
  induction k with
  | zero => rfl
  | succ k ih => simp [bigEndian, ih]

theorem foldl_bigEndian (k n m : Nat) :
    (bigEndian k n).foldl (fun n b => n * 256 + b.toNat) m =
      m * Nat.pow 256 k + n % Nat.pow 256 k := by
  induction k generalizing m with
  | zero => simp [bigEndian, Nat.mod_one]
  | succ k ih =>
    rw [bigEndian, List.foldl_cons, ih, show Nat.pow 256 (k + 1) = Nat.pow 256 k * 256 from rfl,
      Nat.mod_mul]
    simp only [UInt8.toNat_ofNat', Nat.reducePow, Nat.add_mul]
    rw [Nat.mul_right_comm m 256, Nat.mul_assoc m, Nat.mul_comm (n / Nat.pow 256 k % 256)]
    omega

/-- Reading `k` written bytes gives the number back, reduced to `k` bytes. -/
theorem ofBigEndian_bigEndian (k n : Nat) :
    ofBigEndian (bigEndian k n) = n % Nat.pow 256 k := by
  simp [ofBigEndian, foldl_bigEndian]

end SharedVariables.Wire
