/-!
# Processor identities

A processor is named by three numbers: its own, its parent's and its grandparent's. The first alone
decides whether an identity names anybody; zero stands for nobody and, as the target of an offer,
for everybody.
-/

namespace SharedVariables

/-- The number of a processor. -/
abbrev ProcessorNumber := Int32

/-- The number that stands for no processor at all. -/
def ProcessorNumber.none : ProcessorNumber := -1

/-- The first number that is handed out to user processors. -/
def ProcessorNumber.firstUser : ProcessorNumber := 1001

/-- The identity of a processor. -/
structure ProcessorId where
  proc : ProcessorNumber
  parent : ProcessorNumber
  grand : ProcessorNumber
deriving DecidableEq, Repr

namespace ProcessorId

/-- The identity of nobody. -/
def null : ProcessorId := ⟨0, 0, 0⟩

/-- The identity that an offer to everybody is addressed to. -/
def general : ProcessorId := ⟨0, 0, 0⟩

/-- The identity of a processor without a parent. -/
def single (proc : ProcessorNumber) : ProcessorId := ⟨proc, 0, 0⟩

/-- Whether an identity names nobody. -/
def IsNull (id : ProcessorId) : Prop := id.proc = 0

/-- Whether an identity, as the target of an offer, means everybody. -/
def IsGeneral (id : ProcessorId) : Prop := id.proc = 0

instance (id : ProcessorId) : Decidable id.IsNull := inferInstanceAs (Decidable (_ = _))

instance (id : ProcessorId) : Decidable id.IsGeneral := inferInstanceAs (Decidable (_ = _))

/-- The numbers of an identity with dots between them, without trailing zeros; a grandparent is
shown only behind a parent. -/
def text (id : ProcessorId) : String :=
  let own := toString id.proc.toInt
  if id.parent = 0 then own
  else if id.grand = 0 then s!"{own}.{id.parent.toInt}"
  else s!"{own}.{id.parent.toInt}.{id.grand.toInt}"

end ProcessorId

end SharedVariables
