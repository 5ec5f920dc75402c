import SharedVariables.Control
import SharedVariables.ProcessorId

/-!
# Partners

A shared variable has an offering and an accepting side, and each side is a partner: a processor,
the process it lives in, the port that its notifications go to, and a word of flags. A side is
*present* once a process fills it in; an absent side may still name the processor that an offer is
addressed to. How far a variable is coupled follows from which sides are present.
-/

namespace SharedVariables

/-- The flags of one side: its own control bits from its own point of view, whether an event is
pending for it, whether it has been told of an offer, and ten bits without a meaning. -/
structure PartnerFlags where
  control : Control
  eventPending : Bool
  offerSent : Bool
  spare : BitVec 10
deriving DecidableEq, Repr

namespace PartnerFlags

/-- No flag. -/
def none : PartnerFlags := ⟨.none, false, false, 0⟩

/-- The flags as a word of 16 bits: from the low end the control bits, the pending event, the offer
sent and the spare bits. -/
def toWord (f : PartnerFlags) : UInt16 :=
  .ofNat (f.control.toNat + 16 * f.eventPending.toNat + 32 * f.offerSent.toNat + 64 * f.spare.toNat)

/-- The flags in a word of 16 bits. -/
def ofWord (w : UInt16) : PartnerFlags :=
  ⟨.ofNat w.toNat, w.toNat / 16 % 2 == 1, w.toNat / 32 % 2 == 1, .ofNat 10 (w.toNat / 64)⟩

/-- The flags with those of `mask` set. -/
def set (f : PartnerFlags) (mask : UInt16) : PartnerFlags := ofWord (f.toWord ||| mask)

/-- The flags with those of `mask` cleared. -/
def clear (f : PartnerFlags) (mask : UInt16) : PartnerFlags := ofWord (f.toWord &&& ~~~mask)

/-- Whether a flag of `mask` is set. -/
def has (f : PartnerFlags) (mask : UInt16) : Bool := f.toWord &&& mask != 0

theorem ofWord_toWord (f : PartnerFlags) : ofWord f.toWord = f := by
  obtain ⟨control, event, sent, spare⟩ := f
  have hc := control.toNat_lt
  have hs := spare.isLt
  have he : event.toNat < 2 := by cases event <;> decide
  have ht : sent.toNat < 2 := by cases sent <;> decide
  have hb (b : Bool) : (b.toNat == 1) = b := by cases b <;> rfl
  have hw : (toWord ⟨control, event, sent, spare⟩).toNat =
      control.toNat + 16 * event.toNat + 32 * sent.toNat + 64 * spare.toNat := by
    simp only [toWord, UInt16.toNat_ofNat']
    omega
  have h4 : (control.toNat + 16 * event.toNat + 32 * sent.toNat + 64 * spare.toNat) / 64 =
      spare.toNat := by omega
  have h3 : (control.toNat + 16 * event.toNat + 32 * sent.toNat + 64 * spare.toNat) / 32 % 2 =
      sent.toNat := by omega
  have h2 : (control.toNat + 16 * event.toNat + 32 * sent.toNat + 64 * spare.toNat) / 16 % 2 =
      event.toNat := by omega
  have h1 : Control.ofNat (control.toNat + 16 * event.toNat + 32 * sent.toNat + 64 * spare.toNat) =
      control := by
    rw [← Control.ofNat_mod, show (control.toNat + 16 * event.toNat + 32 * sent.toNat +
      64 * spare.toNat) % 16 = control.toNat by omega, Control.ofNat_toNat]
  simp only [ofWord, hw, h1, h2, h3, h4, hb]
  simp

theorem toWord_ofWord (w : UInt16) : (ofWord w).toWord = w := by
  have hw := w.toNat_lt
  have hb (n : Nat) : (n % 2 == 1).toNat = n % 2 := by
    rcases Nat.mod_two_eq_zero_or_one n with h | h <;> simp [h]
  apply UInt16.toNat_inj.1
  simp only [toWord, ofWord, Control.toNat_ofNat, hb, BitVec.toNat_ofNat, UInt16.toNat_ofNat']
  omega

end PartnerFlags

/-- One side of a shared variable. -/
structure Partner where
  id : ProcessorId
  pid : UInt32
  /-- Where notifications go; none are sent to port 0. -/
  port : UInt16
  flags : PartnerFlags
deriving DecidableEq, Repr

namespace Partner

/-- The side that nobody fills in or is meant for. -/
def empty : Partner := ⟨.null, 0, 0, .none⟩

/-- A side without flags. -/
def ofProcess (id : ProcessorId) (pid : UInt32) (port : UInt16) : Partner := ⟨id, pid, port, .none⟩

/-- An absent side that names whom an offer is addressed to. -/
def target (id : ProcessorId) : Partner := ⟨id, 0, 0, .none⟩

/-- Whether a process fills in a side. -/
def Present (p : Partner) : Prop := p.pid ≠ 0 ∧ 0 < p.id.proc

instance (p : Partner) : Decidable p.Present := inferInstanceAs (Decidable (_ ∧ _))

/-- The partner with its own control bits replaced. -/
def withControl (p : Partner) (c : Control) : Partner :=
  { p with flags := { p.flags with control := c } }

/-- The partner with or without a pending event. -/
def withEvent (p : Partner) (pending : Bool) : Partner :=
  { p with flags := { p.flags with eventPending := pending } }

/-- The identity, process and port of a partner. -/
def text (p : Partner) : String := s!"{p.id.text} (pid {p.pid.toNat}, port {p.port.toNat})"

end Partner

/-- How far a variable is shared. -/
inductive Coupling where
  | none
  | offered
  | coupled
deriving DecidableEq, Repr

namespace Coupling

/-- The coupling of two sides; an accepting side never stands alone. -/
def ofSides (offering accepting : Partner) : Coupling :=
  if offering.Present then if accepting.Present then .coupled else .offered else .none

/-- The code of a coupling. -/
def code : Coupling → UInt8
  | .none => 0
  | .offered => 1
  | .coupled => 2

/-- The coupling with a given code; other codes stand for none. -/
def ofCode (code : UInt8) : Coupling :=
  if code = 1 then .offered else if code = 2 then .coupled else .none

/-- The letter for a coupling. -/
def text : Coupling → String
  | .none => "-"
  | .offered => "O"
  | .coupled => "C"

theorem ofCode_code (c : Coupling) : ofCode c.code = c := by cases c <;> rfl

end Coupling

end SharedVariables
