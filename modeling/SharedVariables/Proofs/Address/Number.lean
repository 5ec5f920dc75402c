import Mathlib.Data.List.Basic
import Mathlib.Data.List.TakeDrop
import SharedVariables.Address.Parser
import SharedVariables.Proofs.Text.Digits

/-!
# Numbers in addresses

A number that is written in the digits of a base is read back by `number`, whatever is behind it that is
no digit itself (`number_toDigits`). The digits that `Nat.toDigits` gives have no superfluous zero in
front, so a byte is read back by `octet`, too (`octet_toDigits`).
-/

namespace SharedVariables.Address

open Nat (toDigits)

variable {base n : Nat} {cs rest : List Char}

/-- The digits to a base end in front of a text. -/
def Ends (base : Nat) (rest : List Char) : Prop := ∀ c ∈ rest.head?, digitValue? base c = none

theorem ends_nil : Ends base [] := nofun

theorem ends_cons {c : Char} : Ends base (c :: cs) ↔ digitValue? base c = none := by
  simp [Ends]

/-- A digit to a base is one to a larger base. -/
theorem Ends.mono {base' : Nat} (h : Ends base' rest) (le : base ≤ base') : Ends base rest := by
  intro c hc
  have none := h c hc
  rw [digitValue?, Option.filter_eq_none_iff] at none ⊢
  intro value hv
  have := none value hv
  simp only [decide_eq_true_eq] at this ⊢
  omega

theorem digitValue?_digitChar (hb : base ≤ 16) (hn : n < base) :
    digitValue? base n.digitChar = some n := by
  have all : ∀ n < 16, Text.hexValue? n.digitChar = some n := by decide
  rw [digitValue?, all n (by omega), Option.filter_some, if_pos (decide_eq_true hn)]

/-- Where the digits end, none are read. -/
theorem digits_of_ends (h : Ends base rest) : digits base rest = ([], rest) := by
  cases rest with
  | nil => rfl
  | cons c cs =>
    rw [digits, List.span_eq_takeWhile_dropWhile, List.takeWhile_cons, List.dropWhile_cons,
      ends_cons.1 h]
    rfl

section

variable (hb : 1 < base) (hb' : base ≤ 16)

include hb hb'

/-- The digits of a number are all read, and nothing behind them is. -/
theorem digits_toDigits (h : Ends base rest) :
    digits base (toDigits base n ++ rest) = (toDigits base n, rest) := by
  have all : ∀ c ∈ toDigits base n, (digitValue? base c).isSome :=
    Text.forall_mem_toDigits hb fun d hd => by rw [digitValue?_digitChar hb' hd]; rfl
  have none := digits_of_ends h
  rw [digits, List.span_eq_takeWhile_dropWhile, Prod.mk.injEq] at none ⊢
  rw [List.takeWhile_append_of_pos all, List.dropWhile_append_of_pos all, none.1, none.2,
    List.append_nil]
  exact ⟨rfl, rfl⟩

/-- The digits of a number spell it. -/
theorem digitsValue_toDigits {most : Nat} (h : n ≤ most) :
    digitsValue base most (toDigits base n) = n := by
  induction n using Nat.base_induction base hb with
  | single m hm =>
    rw [Nat.toDigits_of_lt_base hm, digitsValue, List.foldl_cons, List.foldl_nil,
      digitValue?_digitChar hb' hm, Option.getD_some, Nat.zero_mul, Nat.zero_add]
    exact Nat.min_eq_right h
  | digit m k hk hm ih =>
    have fewer : m ≤ base * m := Nat.le_mul_of_pos_left m (by omega)
    have front := ih (by omega)
    rw [← Nat.toDigits_append_toDigits hb hm hk, digitsValue, List.foldl_append, ← digitsValue,
      front, Nat.toDigits_of_lt_base hk, List.foldl_cons, List.foldl_nil,
      digitValue?_digitChar hb' hk, Option.getD_some, Nat.mul_comm]
    exact Nat.min_eq_right h

/-- A number is read back from its digits. -/
theorem number_toDigits {most limit : Nat} (short : (toDigits base n).length ≤ most)
    (small : n ≤ limit) (h : Ends base rest) :
    number base most limit (toDigits base n ++ rest) = some (n, rest) := by
  have written : (toDigits base n).isEmpty = false := by simp
  rw [number, digits_toDigits hb hb' h]
  dsimp only
  rw [digitsValue_toDigits hb hb' (Nat.le_succ_of_le small), written, if_neg (by simp; omega)]

theorem anyNumber_toDigits {limit : Nat} (small : n ≤ limit) (h : Ends base rest) :
    anyNumber base limit (toDigits base n ++ rest) = some (n, rest) :=
  number_toDigits hb hb' (by simp) small h

end

/-- No number is read where no digit is. -/
theorem number_of_ends (most limit : Nat) (h : Ends base rest) : number base most limit rest = none := by
  rw [number, digits_of_ends h]
  exact if_pos (.inl rfl)

/-- Only zero is written with a zero in front. -/
theorem eq_zero_of_head?_toDigits (hb : 1 < base) (h : (toDigits base n).head? = some '0') :
    n = 0 := by
  induction n using Nat.base_induction base hb with
  | single m hm =>
    rw [Nat.toDigits_of_lt_base hm] at h
    exact Nat.digitChar_eq_zero.1 (Option.some.inj h)
  | digit m k hk hm ih =>
    rw [← Nat.toDigits_append_toDigits hb hm hk, List.head?_append_of_ne_nil _ Nat.toDigits_ne_nil] at h
    exact absurd (ih h) (by omega)

/-- A byte is read back from its digits. -/
theorem octet_toDigits (b : UInt8) (h : Ends 10 rest) :
    octet (toDigits 10 b.toNat ++ rest) = some (b, rest) := by
  have small := b.toNat_lt
  have short : (toDigits 10 b.toNat).length ≤ 3 :=
    (Nat.length_toDigits_le_iff (by decide) (by decide)).2 (by omega)
  rw [octet, number_toDigits (by decide) (by decide) short (by omega) h]
  refine (if_neg ?_).trans (by rw [UInt8.ofNat_toNat])
  rintro ⟨zero, longer⟩
  rw [List.head?_append_of_ne_nil _ Nat.toDigits_ne_nil] at zero
  rw [eq_zero_of_head?_toDigits (by decide) zero] at longer
  exact longer (by simp)

end SharedVariables.Address
