import SharedVariables.Proofs.Name.Wildcard

/-!
# Names and their first difference

Matching goes through two names code point by code point, and may end at a difference, at a zero that
they have in common, or at the end. All that can be said of the used code points alone: they are equal,
or a star stands where they first differ, on either side (`AgreeUpToStar`). `matchPoints_iff` shows this
by induction on the comparison, for any lists of code points, so whole buffers compare as the names do
(`matchPoints_buffer`); `matches_iff_first_difference` puts it together.
-/

namespace SharedVariables

section CommonPrefix

variable {α : Type} [DecidableEq α] {a b : α} {l as bs : List α}

/-- What two lists begin with in common. -/
def commonPrefix : List α → List α → List α
  | a :: as, b :: bs => if a = b then a :: commonPrefix as bs else []
  | _, _ => []

@[simp] theorem commonPrefix_nil_left (bs : List α) : commonPrefix [] bs = [] := by
  cases bs <;> rfl

@[simp] theorem commonPrefix_nil_right (as : List α) : commonPrefix as [] = [] := by
  cases as <;> rfl

@[simp] theorem commonPrefix_cons_self (a : α) (as bs : List α) :
    commonPrefix (a :: as) (a :: bs) = a :: commonPrefix as bs := by
  rw [commonPrefix, if_pos rfl]

theorem commonPrefix_cons_of_ne (differ : a ≠ b) (as bs : List α) :
    commonPrefix (a :: as) (b :: bs) = [] := by
  rw [commonPrefix, if_neg differ]

/-- A list begins both of two lists just if it begins what they begin with in common, which is so the
longest such list. -/
theorem prefix_commonPrefix_iff : l <+: commonPrefix as bs ↔ l <+: as ∧ l <+: bs := by
  induction l generalizing as bs with
  | nil => simp only [List.nil_prefix, and_self]
  | cons c l ih =>
    cases as with
    | nil => simp only [commonPrefix_nil_left, List.prefix_nil, reduceCtorEq, false_and]
    | cons a as =>
      cases bs with
      | nil => simp only [commonPrefix_nil_right, List.prefix_nil, reduceCtorEq, and_false]
      | cons b bs =>
        by_cases same : a = b
        · subst same
          simp only [commonPrefix_cons_self, List.cons_prefix_cons, ih]
          exact and_and_left
        · simp only [commonPrefix_cons_of_ne same, List.prefix_nil, reduceCtorEq, false_iff,
            List.cons_prefix_cons]
          rintro ⟨⟨rfl, -⟩, rfl, -⟩
          exact same rfl

end CommonPrefix

namespace Name

/-- Whether a star is at a given place of a list of code points. -/
def StarAt (points : List UInt32) (i : Nat) : Prop := ∃ point ∈ points[i]?, isWildcard point = true

/-- Whether two lists of code points are equal, or one has a star where they first differ. -/
def AgreeUpToStar (stored requested : List UInt32) : Prop :=
  stored = requested ∨
    StarAt stored (commonPrefix stored requested).length ∨
      StarAt requested (commonPrefix stored requested).length

section Agree

variable {c s r : UInt32} {stored requested : List UInt32}

theorem not_starAt_nil (i : Nat) : ¬StarAt [] i := by
  rintro ⟨point, h, -⟩
  cases h

theorem starAt_zero : StarAt (c :: stored) 0 ↔ isWildcard c = true := by
  simp only [StarAt, List.getElem?_cons_zero, Option.mem_some_iff, exists_eq_left']

theorem starAt_succ {i : Nat} : StarAt (c :: stored) (i + 1) ↔ StarAt stored i := by
  simp only [StarAt, List.getElem?_cons_succ]

theorem agree_nil_cons : AgreeUpToStar [] (r :: requested) ↔ isWildcard r = true := by
  simp only [AgreeUpToStar, commonPrefix_nil_left, List.length_nil, not_starAt_nil, starAt_zero,
    reduceCtorEq, false_or]

theorem agree_cons_nil : AgreeUpToStar (s :: stored) [] ↔ isWildcard s = true := by
  simp only [AgreeUpToStar, commonPrefix_nil_right, List.length_nil, not_starAt_nil, starAt_zero,
    reduceCtorEq, or_false, false_or]

theorem agree_cons_self :
    AgreeUpToStar (c :: stored) (c :: requested) ↔ AgreeUpToStar stored requested := by
  simp only [AgreeUpToStar, commonPrefix_cons_self, List.length_cons, starAt_succ, List.cons.injEq,
    true_and]

theorem agree_cons_of_ne (differ : s ≠ r) :
    AgreeUpToStar (s :: stored) (r :: requested) ↔ isWildcard s = true ∨ isWildcard r = true := by
  simp only [AgreeUpToStar, commonPrefix_cons_of_ne differ, List.length_nil, starAt_zero,
    List.cons.injEq, differ, false_and, false_or]

end Agree

/-- The code points before the first zero. -/
def untilZero (points : List UInt32) : List UInt32 := points.takeWhile (· != 0)

theorem untilZero_zero (points : List UInt32) : untilZero (0 :: points) = [] :=
  List.takeWhile_cons_of_neg (by decide)

theorem untilZero_cons {c : UInt32} (nonzero : c ≠ 0) (points : List UInt32) :
    untilZero (c :: points) = c :: untilZero points :=
  List.takeWhile_cons_of_pos (bne_iff_ne.2 nonzero)

theorem untilZero_buffer (name : Name) : untilZero name.buffer = name.used := by
  have zeros (n : Nat) : untilZero (List.replicate n 0) = [] := by
    cases n with
    | zero => rfl
    | succ n => exact untilZero_zero _
  rw [buffer, used, untilZero, List.takeWhile_append]
  split
  · rename_i whole
    rw [← untilZero, zeros, List.append_nil]
    exact (List.takeWhile_prefix _).eq_of_length whole |>.symm
  · rfl

/-- What a comparison comes to depends on what comes before the first zeros, and on nothing else: at a
difference, a zero stands for the end of a name. -/
theorem matchPoints_iff (stored requested : List UInt32) :
    matchPoints stored requested = true ↔ AgreeUpToStar (untilZero stored) (untilZero requested) := by
  induction stored generalizing requested with
  | nil =>
    cases requested with
    | nil => exact iff_of_true rfl (.inl rfl)
    | cons r requested =>
      by_cases ends : r = 0
      · subst ends
        rw [untilZero_zero]
        exact iff_of_true rfl (.inl rfl)
      · rw [untilZero_cons ends]
        refine Iff.trans ?_ agree_nil_cons.symm
        simp only [matchPoints, Bool.or_eq_true, beq_iff_eq, ends, false_or]
  | cons s stored ih =>
    cases requested with
    | nil =>
      by_cases ends : s = 0
      · subst ends
        rw [untilZero_zero]
        exact iff_of_true rfl (.inl rfl)
      · rw [untilZero_cons ends]
        refine Iff.trans ?_ agree_cons_nil.symm
        simp only [matchPoints, Bool.or_eq_true, beq_iff_eq, ends, false_or]
    | cons r requested =>
      by_cases same : s = r
      · subst same
        simp only [matchPoints, ↓reduceIte, Bool.or_eq_true, beq_iff_eq]
        by_cases ends : s = 0
        · subst ends
          rw [untilZero_zero, untilZero_zero]
          exact iff_of_true (.inl rfl) (.inl rfl)
        · rw [untilZero_cons ends, untilZero_cons ends, agree_cons_self, ← ih]
          exact or_iff_right ends
      · simp only [matchPoints, if_neg same, Bool.or_eq_true]
        by_cases ends : s = 0
        · subst ends
          have goesOn : r ≠ 0 := Ne.symm same
          rw [untilZero_zero, untilZero_cons goesOn, agree_nil_cons]
          exact or_iff_right fun wild => ne_zero_of_isWildcard wild rfl
        · by_cases ends' : r = 0
          · subst ends'
            rw [untilZero_zero, untilZero_cons ends, agree_cons_nil]
            exact or_iff_left fun wild => ne_zero_of_isWildcard wild rfl
          · rw [untilZero_cons ends, untilZero_cons ends', agree_cons_of_ne same]

/-- To compare whole buffers, with the unused zeros at their ends, comes to the same. -/
theorem matchPoints_buffer (stored requested : Name) :
    matchPoints stored.buffer requested.buffer = matchPoints stored.points requested.points := by
  rw [Bool.eq_iff_iff, matchPoints_iff, matchPoints_iff, untilZero_buffer, untilZero_buffer]
  rfl

/-- Two names match just if their used code points are equal or one of them has a star where these first
differ, which is right behind the longest list `front` that begins both. So code points behind the first
zero do not matter, every name matches itself, and it does not matter which name is stored and which is
requested. -/
theorem matches_iff_first_difference (stored requested : Name) :
    let front := commonPrefix stored.used requested.used
    (∀ l, l <+: front ↔ l <+: stored.used ∧ l <+: requested.used) ∧
      (stored.Matches requested ↔ matchPoints stored.buffer requested.buffer = true) ∧
      (stored.Matches requested ↔ stored.used = requested.used ∨
        StarAt stored.used front.length ∨ StarAt requested.used front.length) ∧
      (∀ stored' requested' : Name, stored'.used = stored.used → requested'.used = requested.used →
        (stored'.Matches requested' ↔ stored.Matches requested)) ∧
      stored.Matches stored ∧ (stored.Matches requested ↔ requested.Matches stored) := by
  intro front
  have closed (a b : Name) : a.Matches b ↔ AgreeUpToStar a.used b.used := matchPoints_iff ..
  refine ⟨fun l => prefix_commonPrefix_iff, by rw [matchPoints_buffer, Matches],
    closed stored requested, ?_, (closed stored stored).2 (.inl rfl), matches_comm ..⟩
  intro stored' requested' same same'
  rw [closed, closed, same, same']

/-- What stands behind the first zeros does not keep a star from standing for the rest of a name, nor two
names from being equal. -/
theorem matches_iff_first_difference_of_zeros :
    let stored := ofPoints [0x41, 0x22C6, 0, 0x42]
    let requested := ofPoints [0x41, 0x43, 0x44, 0, 0x2A, 0x45]
    let stored' := ofPoints [0x41, 0x22C6]
    let requested' := ofPoints [0x41, 0x43, 0x44]
    stored'.used = stored.used ∧ requested'.used = requested.used ∧
      stored.Matches requested ∧ stored'.Matches requested' := by
  intro stored requested stored' requested'
  have same : stored'.used = stored.used := by decide
  have same' : requested'.used = requested.used := by decide
  obtain ⟨-, -, matches_iff, unread, -, -⟩ := matches_iff_first_difference stored requested
  have star : StarAt stored.used (commonPrefix stored.used requested.used).length :=
    ⟨0x22C6, by decide, rfl⟩
  have matched : stored.Matches requested := matches_iff.2 (.inr (.inl star))
  exact ⟨same, same', matched, (unread _ _ same same').2 matched⟩

end Name

end SharedVariables
