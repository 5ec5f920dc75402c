import SharedVariables.ProcessorId
import SharedVariables.Text.Hex

/-!
# Keys

A key is the handle of one shared variable. It is put together from the process and the processor
that made the offer and a running number, and it is never zero: the zero key stands for no variable.
-/

namespace SharedVariables

/-- The handle of a shared variable. -/
structure Key where
  raw : UInt64
deriving DecidableEq, Repr

namespace Key

/-- The key of no variable. -/
def none : Key := ⟨0⟩

/-- Whether a key names no variable. -/
def IsNone (key : Key) : Prop := key = none

instance (key : Key) : Decidable key.IsNone := inferInstanceAs (Decidable (_ = _))

/-- The key of the offer numbered `seq` of the processor `proc` in the process `pid`: the process in
the upper half, then the low 16 bits of the processor number, then the running number. -/
def compose (pid : UInt32) (proc : ProcessorNumber) (seq : UInt16) : Key :=
  ⟨.ofNat (pid.toNat * 0x100000000 + (proc.toInt % 0x10000).toNat * 0x10000 + seq.toNat)⟩

/-- The 16 hexadecimal digits of a key. -/
def text (key : Key) : String := "0x" ++ Text.hexUpper 16 key.raw.toNat

end Key

end SharedVariables
