/-!
# Access control

Each partner of a shared variable may restrict how the variable is used. The four control bits say
which of setting and using by the offering and by the accepting partner is restricted; the state of
the variable says which of them is exhausted at the moment. Both are kept from the offering
partner's point of view, and `mirror` turns them into the other partner's.
-/

namespace SharedVariables

/-- The four control bits. -/
structure Control where
  setByOffering : Bool
  setByAccepting : Bool
  useByOffering : Bool
  useByAccepting : Bool
deriving DecidableEq, Repr

namespace Control

/-- No restriction. -/
def none : Control := ⟨false, false, false, false⟩

/-- Every restriction. -/
def all : Control := ⟨true, true, true, true⟩

/-- "I may not set twice in a row", from the point of view of whoever sets it. -/
def setByMe : Control := ⟨true, false, false, false⟩

/-- "I may not use twice in a row", from the point of view of whoever sets it. -/
def useByMe : Control := ⟨false, false, true, false⟩

/-- The control bits in the low four bits of a number. -/
def ofNat (n : Nat) : Control :=
  ⟨n / 8 % 2 == 1, n / 4 % 2 == 1, n / 2 % 2 == 1, n % 2 == 1⟩

/-- The number below 16 that has the control bits as its binary digits. -/
def toNat (c : Control) : Nat :=
  8 * c.setByOffering.toNat + 4 * c.setByAccepting.toNat + 2 * c.useByOffering.toNat +
    c.useByAccepting.toNat

/-- The restrictions of either. -/
def union (a b : Control) : Control :=
  ⟨a.setByOffering || b.setByOffering, a.setByAccepting || b.setByAccepting,
    a.useByOffering || b.useByOffering, a.useByAccepting || b.useByAccepting⟩

/-- The restrictions of both. -/
def inter (a b : Control) : Control :=
  ⟨a.setByOffering && b.setByOffering, a.setByAccepting && b.setByAccepting,
    a.useByOffering && b.useByOffering, a.useByAccepting && b.useByAccepting⟩

/-- Whether there is no restriction. -/
def isEmpty (c : Control) : Bool := c == none

/-- Whether `b` has a restriction and all its restrictions are among those of `a`. -/
def contains (a b : Control) : Bool := a.inter b == b && !b.isEmpty

/-- The same restrictions with the roles of the partners exchanged. -/
def mirror (c : Control) : Control :=
  ⟨c.setByAccepting, c.setByOffering, c.useByAccepting, c.useByOffering⟩

/-- The four bits as binary digits. -/
def text (c : Control) : String :=
  String.ofList ([c.setByOffering, c.setByAccepting, c.useByOffering, c.useByAccepting].map
    fun b => if b then '1' else '0')

theorem ofNat_toNat (c : Control) : ofNat c.toNat = c := by
  rcases c with ⟨_ | _, _ | _, _ | _, _ | _⟩ <;> rfl

theorem toNat_lt (c : Control) : c.toNat < 16 := by
  rcases c with ⟨_ | _, _ | _, _ | _, _ | _⟩ <;> decide

theorem toNat_ofNat (n : Nat) : (ofNat n).toNat = n % 16 := by
  have h (m : Nat) : (m % 2 == 1).toNat = m % 2 := by
    rcases Nat.mod_two_eq_zero_or_one m with h | h <;> simp [h]
  simp only [toNat, ofNat, h]
  omega

/-- Only the low four bits of a number count. -/
theorem ofNat_mod (n : Nat) : ofNat (n % 16) = ofNat n := by
  simp only [ofNat, show n % 16 / 8 % 2 = n / 8 % 2 by omega,
    show n % 16 / 4 % 2 = n / 4 % 2 by omega, show n % 16 / 2 % 2 = n / 2 % 2 by omega,
    show n % 16 % 2 = n % 2 by omega]

@[simp] theorem mirror_mirror (c : Control) : c.mirror.mirror = c := rfl

theorem mirror_union (a b : Control) : (a.union b).mirror = a.mirror.union b.mirror := rfl

end Control

/-- Who set the variable last. -/
inductive AccessState where
  /-- No partner shares the variable. -/
  | notShared
  /-- The last value has been used. -/
  | idle
  /-- The offering partner has set the variable. -/
  | offeringHasSet
  /-- The accepting partner has set the variable. -/
  | acceptingHasSet
deriving DecidableEq, Repr

namespace AccessState

/-- The accesses that are exhausted in a state. -/
def restriction : AccessState → Control
  | .notShared => ⟨false, false, false, false⟩
  | .idle => ⟨false, false, true, true⟩
  | .offeringHasSet => ⟨true, false, true, false⟩
  | .acceptingHasSet => ⟨false, true, false, true⟩

/-- The code of a state: the number of its restriction. -/
def code (s : AccessState) : UInt8 := .ofNat s.restriction.toNat

/-- The state with a given code; other codes stand for no sharing. -/
def ofCode (code : UInt8) : AccessState :=
  if code = 0x03 then .idle
  else if code = 0x0A then .offeringHasSet
  else if code = 0x05 then .acceptingHasSet
  else .notShared

/-- The same state with the roles of the partners exchanged. -/
def mirror : AccessState → AccessState
  | .offeringHasSet => .acceptingHasSet
  | .acceptingHasSet => .offeringHasSet
  | s => s

/-- The name of a state. -/
def text : AccessState → String
  | .notShared => "NotShared"
  | .idle => "Idle"
  | .offeringHasSet => "OfferingHasSet"
  | .acceptingHasSet => "AcceptingHasSet"

theorem ofCode_code (s : AccessState) : ofCode s.code = s := by cases s <;> rfl

end AccessState

end SharedVariables
