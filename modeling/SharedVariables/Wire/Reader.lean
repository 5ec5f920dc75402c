import SharedVariables.Wire.BigEndian
import SharedVariables.Wire.Error

/-!
# Readers

A reader takes bytes off the front of its input. What it has taken stays taken even when a later
step fails, so that the input left over always says how far it came.
-/

namespace SharedVariables.Wire

/-- A reader of `α`: its result, and the input that is left. -/
def Reader (α : Type) := Bytes → Except Error α × Bytes

namespace Reader

variable {α β : Type}

/-- Reads nothing. -/
def pure (a : α) : Reader α := fun bs => (.ok a, bs)

/-- Fails without taking anything. -/
def fail (e : Error) : Reader α := fun bs => (.error e, bs)

/-- Reads with `r`, then with what `f` makes of the result. -/
def bind (r : Reader α) (f : α → Reader β) : Reader β := fun bs =>
  match r bs with
  | (.ok a, rest) => f a rest
  | (.error e, rest) => (.error e, rest)

instance : Monad Reader where
  pure := pure
  bind := bind

/-- The result of a reader on a whole input. -/
def result (r : Reader α) (bs : Bytes) : Except Error α := (r bs).1

/-- The first `n` bytes and those after them, if there are that many; `taken` are the bytes before,
last first. -/
def splitAt? : Nat → Bytes → Bytes → Option (Bytes × Bytes)
  | 0, taken, bs => some (taken.reverse, bs)
  | _ + 1, _, [] => none
  | n + 1, taken, b :: bs => splitAt? n (b :: taken) bs

/-- The next `n` bytes; takes nothing if there are fewer. -/
def take (n : Nat) : Reader Bytes := fun bs =>
  match splitAt? n [] bs with
  | some (taken, rest) => (.ok taken, rest)
  | none => (.error (.truncated n bs.length), bs)

/-- An unsigned integer of `k` bytes. -/
def unsigned (k : Nat) : Reader Nat := do
  return ofBigEndian (← take k)

/-- A signed integer of `k` bytes. -/
def signed (k : Nat) : Reader Int := do
  return signExtend k (← unsigned k)

/-- A byte string: its length in two bytes, then that many bytes. If these are missing, the length
stays taken. -/
def string : Reader Bytes := do
  take (← unsigned 2)

/-- `n` results of `r` in order, after those in `read` (last first). -/
def replicateAfter (r : Reader α) : Nat → List α → Reader (List α)
  | 0, read => Reader.pure read.reverse
  | n + 1, read => Reader.bind r fun a => replicateAfter r n (a :: read)

/-- `n` results of `r` in order. -/
def replicate (n : Nat) (r : Reader α) : Reader (List α) := replicateAfter r n []

end Reader

end SharedVariables.Wire
