import SharedVariables.Text.Hex

/-!
# Digits

The digits of a number are characters of digits below the base (`exists_digit_of_mem_toDigits`), so what
is written in digits never has a character of another kind in it.
-/

namespace SharedVariables.Text

variable {base n : Nat} {c : Char}

theorem exists_digit_of_mem_toDigits (hb : 1 < base) (hc : c ∈ Nat.toDigits base n) :
    ∃ d < base, d.digitChar = c := by
  induction n using Nat.base_induction base hb with
  | single m hm =>
    rw [Nat.toDigits_of_lt_base hm, List.mem_singleton] at hc
    exact ⟨m, hm, hc.symm⟩
  | digit m k hk hm ih =>
    rw [← Nat.toDigits_append_toDigits hb hm hk, List.mem_append, Nat.toDigits_of_lt_base hk,
      List.mem_singleton] at hc
    rcases hc with hc | hc
    · exact ih hc
    · exact ⟨k, hk, hc.symm⟩

/-- What holds of all digits to a base of at most 16 holds of those of a number. -/
theorem forall_mem_toDigits {P : Char → Prop} (hb : 1 < base) (all : ∀ d < base, P d.digitChar) :
    ∀ c ∈ Nat.toDigits base n, P c := by
  intro c hc
  obtain ⟨d, hd, rfl⟩ := exists_digit_of_mem_toDigits hb hc
  exact all d hd

end SharedVariables.Text
