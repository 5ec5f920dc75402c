import SharedVariables.Registry.Basic
import SharedVariables.Text.Quoted

/-!
# Segments of shared memory

Processes on one host find the registry in a segment of memory that has a name: a slash and
something without slashes behind it. A segment that is there already has to be as large as the
registry and its locks, rounded up to a whole page at most.
-/

namespace SharedVariables

/-- Why a segment cannot be used. -/
inductive SegmentError where
  /-- The name is not that of a segment. -/
  | badName (name : String)
  /-- The segment has another size. -/
  | badSize (found : Nat)
deriving DecidableEq, Repr

namespace Segment

/-- The bytes of an identity, a process, a port and flags. -/
def partnerSize : Nat := 3 * 4 + 4 + 2 + 2

/-- The bytes of a row: its key, two partners, its state and its name, filled up to a multiple of
eight. -/
def rowSize : Nat := (8 + 2 * partnerSize + 1 + 4 * nameCapacity + 7) / 8 * 8

/-- The bytes of a slot: its partner and the pending events. -/
def slotSize : Nat := partnerSize + 4

/-- The bytes of a segment: a mark and two locks, then the registry's tables and its counter, filled
up to a multiple of eight. -/
def size : Nat := 8 + 2 * 32 + (rowCapacity * rowSize + slotCapacity * slotSize + 4 + 7) / 8 * 8

/-- The bytes of a page. -/
def pageSize : Nat := 4096

/-- The most bytes that an existing segment may have. -/
def maxSize : Nat := (size + pageSize - 1) / pageSize * pageSize

/-- Refuses a name that is not that of a segment. -/
def checkName (name : String) : Except SegmentError Unit :=
  match name.toList with
  | '/' :: c :: cs =>
    if (c :: cs).any fun c => c == '/' || c == '\x00' then .error (.badName name) else .ok ()
  | _ => .error (.badName name)

/-- Refuses an existing segment of another size. -/
def checkSize (found : Nat) : Except SegmentError Unit :=
  if found < size ∨ maxSize < found then .error (.badSize found) else .ok ()

end Segment

/-- The name of a cause. -/
def SegmentError.name : SegmentError → String
  | .badName _ => "BadName"
  | .badSize _ => "BadSize"

/-- The text of an error. -/
def SegmentError.message : SegmentError → String
  | .badName name => s!"Invalid segment name: {Text.quoted name}"
  | .badSize found =>
    s!"Segment size mismatch: found {found} bytes, expected {Segment.size}..={Segment.maxSize}"

end SharedVariables
