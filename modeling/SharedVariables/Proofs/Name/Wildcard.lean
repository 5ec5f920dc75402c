import SharedVariables.Name

/-!
# Names that end in a star

A star stands for whatever follows in the other name, but only where the two names first differ. So a
name that ends in a star matches all names that go on from what stands before it, but for those that
have the same star there and then go on: the two stars are taken for equal code points, and the
difference comes behind them (`star_matches_iff`). Which of two names is the stored one does not matter
(`matchPoints_comm`).
-/

namespace SharedVariables.Name

/-- Comparing two names, either of them may come first. -/
theorem matchPoints_comm (stored requested : List UInt32) :
    matchPoints stored requested = matchPoints requested stored := by
  induction stored generalizing requested with
  | nil => cases requested <;> rfl
  | cons s stored ih =>
    cases requested with
    | nil => rfl
    | cons r requested =>
      simp only [matchPoints]
      by_cases h : s = r
      · rw [if_pos h, if_pos h.symm, ih, h]
      · rw [if_neg h, if_neg (Ne.symm h), Bool.or_comm]

theorem matches_comm (stored requested : Name) :
    stored.Matches requested ↔ requested.Matches stored := by
  rw [Matches, Matches, matchPoints_comm]

/-- What two names begin with in common does not matter, if there is no zero in it. -/
theorem matchPoints_append {front : List UInt32} (used : ∀ c ∈ front, c ≠ 0)
    (stored requested : List UInt32) :
    matchPoints (front ++ stored) (front ++ requested) = matchPoints stored requested := by
  induction front with
  | nil => rfl
  | cons c front ih =>
    obtain ⟨nonzero, used⟩ := List.forall_mem_cons.1 used
    simp only [List.cons_append, matchPoints, ↓reduceIte, ih used, beq_eq_false_iff_ne.2 nonzero,
      Bool.false_or]

theorem ne_zero_of_isWildcard {point : UInt32} (h : isWildcard point = true) : point ≠ 0 := by
  rintro rfl
  cases h

/-- The code points of a name that has room for them and does not end in a zero. -/
theorem points_ofPoints {points : List UInt32} (fits : points.length ≤ nameCapacity)
    (last : points.getLast? ≠ some 0) : (ofPoints points).points = points := by
  simp only [ofPoints, List.take_of_length_le fits]
  exact withoutTrailingZeros_eq_self last

/-- Whether a name goes on with a given code point behind `front`, and behind that with one that is
neither a zero nor a star. -/
def GoesOnPast (name : Name) (front : List UInt32) (point : UInt32) : Prop :=
  ∃ next more, name.points = front ++ point :: next :: more ∧ next ≠ 0 ∧ isWildcard next = false

/-- A lone star stands for any code points, but not for itself with more behind it. -/
theorem matchPoints_star_iff {star : UInt32} (wild : isWildcard star = true) (rest : List UInt32) :
    matchPoints [star] rest = true ↔
      ¬∃ next more, rest = star :: next :: more ∧ next ≠ 0 ∧ isWildcard next = false := by
  have nonzero := beq_eq_false_iff_ne.2 (ne_zero_of_isWildcard wild)
  cases rest with
  | nil =>
    simp only [matchPoints, wild, Bool.or_true, true_iff]
    rintro ⟨next, more, h, -⟩
    cases h
  | cons c rest =>
    by_cases same : star = c
    · subst same
      cases rest with
      | nil =>
        simp only [matchPoints, ↓reduceIte, Bool.or_true, true_iff]
        rintro ⟨next, more, h, -⟩
        cases h
      | cons next rest =>
        simp only [matchPoints, ↓reduceIte, nonzero, Bool.false_or, Bool.or_eq_true, beq_iff_eq]
        constructor
        · rintro ends ⟨_, _, h, hne, plain⟩
          cases h
          rcases ends with h | h
          · exact hne h
          · rw [plain] at h
            cases h
        · intro h
          by_cases zero : next = 0
          · exact .inl zero
          · refine .inr (Bool.of_not_eq_false fun plain => ?_)
            exact h ⟨next, rest, rfl, zero, plain⟩
    · simp only [matchPoints, if_neg same, wild, Bool.true_or, true_iff]
      rintro ⟨next, more, h, -⟩
      exact same (List.cons.inj h).1.symm

/-- Which names a name that ends in a star matches, of those that begin as it does: all that do not
have the same star there and then go on. It matches them as the stored name and as the requested
one. -/
theorem star_matches_iff {front : List UInt32} {star : UInt32} {name : Name}
    (short : front.length < nameCapacity) (plain : ∀ c ∈ front, c ≠ 0 ∧ isWildcard c = false)
    (wild : isWildcard star = true) (begins : front <+: name.points) :
    ((ofPoints (front ++ [star])).Matches name ↔ ¬name.GoesOnPast front star) ∧
      (name.Matches (ofPoints (front ++ [star])) ↔ ¬name.GoesOnPast front star) := by
  have stored : (ofPoints (front ++ [star])).Matches name ↔ ¬name.GoesOnPast front star := by
    have points : (ofPoints (front ++ [star])).points = front ++ [star] := by
      refine points_ofPoints ?_ ?_
      · rw [List.length_append, List.length_singleton]
        exact short
      · rw [List.getLast?_concat]
        exact fun h => ne_zero_of_isWildcard wild (Option.some.inj h)
    obtain ⟨rest, hrest⟩ := begins
    rw [Matches, points, ← hrest, matchPoints_append fun c hc => (plain c hc).1,
      matchPoints_star_iff wild]
    simp only [GoesOnPast, ← hrest, List.append_cancel_left_eq]
  exact ⟨stored, (matches_comm ..).trans stored⟩

/-- One star stands for a name that goes on with the other one. -/
theorem star_matches_iff_of_other :
    let front : List UInt32 := [0x41, 0x42]
    let name := ofText "AB*CD"
    front <+: name.points ∧ (ofPoints (front ++ [0x22C6])).Matches name ∧
      name.Matches (ofPoints (front ++ [0x22C6])) := by
  intro front name
  have begins : front <+: name.points := by decide
  have plain : ∀ c ∈ front, c ≠ 0 ∧ isWildcard c = false := by
    rw [List.forall_mem_cons, List.forall_mem_singleton]
    decide
  obtain ⟨stored, requested⟩ : ((ofPoints (front ++ [0x22C6])).Matches name ↔
      ¬name.GoesOnPast front 0x22C6) ∧ (name.Matches (ofPoints (front ++ [0x22C6])) ↔
      ¬name.GoesOnPast front 0x22C6) := star_matches_iff (by decide) plain rfl begins
  have differs : ¬name.GoesOnPast front 0x22C6 := by
    rintro ⟨next, more, h, -⟩
    have there : name.points[2]? = some 0x22C6 := congrArg (·[2]?) h
    exact absurd there (by decide)
  exact ⟨begins, stored.2 differs, requested.2 differs⟩

/-- The lone star does not stand for every name: not for itself with a letter behind it, though the
other star does. -/
theorem star_does_not_match_star_and_more :
    let front : List UInt32 := []
    let name := ofText "*A"
    (front.length < nameCapacity ∧ (∀ c ∈ front, c ≠ 0 ∧ isWildcard c = false) ∧
        isWildcard 0x2A = true ∧ front <+: name.points) ∧
      ¬(ofPoints (front ++ [0x2A])).Matches name ∧ ¬name.Matches (ofPoints (front ++ [0x2A])) ∧
        (ofPoints (front ++ [0x22C6])).Matches name :=
  ⟨⟨by decide, fun _ hc => absurd hc List.not_mem_nil, rfl, by decide⟩, by decide, by decide, by decide⟩

end SharedVariables.Name
