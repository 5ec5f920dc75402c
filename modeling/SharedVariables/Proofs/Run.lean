import Mathlib.Data.List.Infix

/-!
# Runs

A run takes a state through a list of steps. `Throughout` says that something holds before a run and
after each step of it, and `Since` that steps of one kind come to an end with one of another kind. Where
something does not hold throughout, a run can be cut at the last step that breaks it
(`exists_last_break`). Registries are run by operations and servers by actions of their clients, so all of
this is for any states and steps.
-/

namespace SharedVariables

variable {σ α : Type} {step : σ → α → σ} {P : σ → Prop} {s : σ} {a : α} {as : List α}

/-- Whether `P` holds before a run and after each step of it. -/
def Throughout (step : σ → α → σ) (P : σ → Prop) (s : σ) (as : List α) : Prop :=
  ∀ done ∈ as.inits, P (done.foldl step s)

instance [DecidablePred P] : Decidable (Throughout step P s as) :=
  inferInstanceAs (Decidable (∀ done ∈ _, _))

theorem throughout_nil : Throughout step P s [] ↔ P s := by
  simp only [Throughout, List.inits, List.mem_singleton, forall_eq, List.foldl_nil]

theorem throughout_cons :
    Throughout step P s (a :: as) ↔ P s ∧ Throughout step P (step s a) as := by
  simp only [Throughout, List.inits, List.forall_mem_cons, List.foldl_nil, List.forall_mem_map,
    List.foldl_cons]

variable (step) in
/-- What holds of a run unless one of its steps breaks it either holds of all of the run, or there is a last
step that breaks it. -/
theorem exists_last_break {Holds : σ → List α → Prop} {Breaks : σ → α → Prop}
    (goesOn : ∀ {s a as}, ¬Breaks s a → Holds (step s a) as → Holds s (a :: as))
    (ends : Holds (as.foldl step s) []) :
    Holds s as ∨ ∃ before a after, as = before ++ a :: after ∧ Breaks (before.foldl step s) a ∧
      Holds (step (before.foldl step s) a) after := by
  induction as generalizing s with
  | nil => exact .inl ends
  | cons a as ih =>
    rcases ih ends with holds | ⟨before, last, after, rfl, broken, holds⟩
    · by_cases broken : Breaks s a
      · exact .inr ⟨[], a, as, rfl, broken, holds⟩
      · exact .inl (goesOn broken holds)
    · exact .inr ⟨a :: before, last, after, rfl, broken, holds⟩

namespace Throughout

variable (step P) in
/-- What holds after a run has held throughout, or there is a last step before which it has not. -/
theorem or_since (ends : P (as.foldl step s)) :
    Throughout step P s as ∨ ∃ before a after, as = before ++ a :: after ∧ ¬P (before.foldl step s) ∧
      Throughout step P (step (before.foldl step s) a) after := by
  have goesOn {s : σ} {a : α} {as : List α} (holds : ¬¬P s) (later : Throughout step P (step s a) as) :
      Throughout step P s (a :: as) := throughout_cons.2 ⟨not_not.1 holds, later⟩
  exact exists_last_break step goesOn (throughout_nil.2 ends)

theorem of_prefix (h : Throughout step P s as) {done : List α} (hp : done <+: as) :
    P (done.foldl step s) := h done ((List.mem_inits _ _).2 hp)

theorem start (h : Throughout step P s as) : P s := h.of_prefix List.nil_prefix

theorem finish (h : Throughout step P s as) : P (as.foldl step s) := h.of_prefix List.prefix_rfl

end Throughout

/-- Whether there has been a step of one kind, and none of another kind since. -/
def Since (first later : α → Prop) (as : List α) : Prop :=
  ∃ before a after, as = before ++ a :: after ∧ first a ∧ ∀ a' ∈ after, ¬later a'

/-- What steps of one kind bring about, and all steps keep that are not of another kind, holds since
then. -/
theorem Since.holds {first later : α → Prop} (h : Since first later as)
    (starts : ∀ s a, first a → P (step s a)) (keeps : ∀ s a, ¬later a → P s → P (step s a))
    (s : σ) : P (as.foldl step s) := by
  obtain ⟨before, a, after, rfl, hfirst, hlater⟩ := h
  have kept (s : σ) (hs : P s) : P (after.foldl step s) := by
    induction after generalizing s with
    | nil => exact hs
    | cons a' after ih =>
      rw [List.forall_mem_cons] at hlater
      exact ih hlater.2 _ (keeps s a' hlater.1 hs)
  rw [List.foldl_append, List.foldl_cons]
  exact kept _ (starts _ a hfirst)

end SharedVariables
