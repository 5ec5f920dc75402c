import Mathlib.Data.Sym.Sym2
import SharedVariables.Proofs.Registry.Leaving

/-!
# The halves of a compound variable

A compound variable is two variables of the same two processors, and their names say that they belong
together (`Name.Halves`). Neither the names nor the processors tell one of them from the other, since it
does not matter who offers which, so to be the other half is symmetric (`IsCompanion.symm`).
`pairingKey_first` and `pairingKey_eq_none_iff` say which of several candidates is taken. That one need
not take the variable back, but it does not stay without a half (`pairing_keys_are_mutual`).
-/

namespace SharedVariables

namespace Name

variable {a b : Name}

/-- Whether two names are those of the halves of a compound variable, the controlling half first: `CTL` and
`DAT`, or `C` and `D` before the same digits. -/
inductive Halves (control data : Name) : Prop
  | named (first : control.used = "CTL".toList.map Char.val)
      (second : data.used = "DAT".toList.map Char.val)
  | numbered {digits : List UInt32} (some : digits ≠ [])
      (decimal : ∀ digit ∈ digits, '0'.val ≤ digit ∧ digit ≤ '9'.val)
      (first : control.used = 'C'.val :: digits) (second : data.used = 'D'.val :: digits)

theorem isDigit_iff {point : UInt32} : isDigit point = true ↔ '0'.val ≤ point ∧ point ≤ '9'.val := by
  rw [isDigit, Bool.and_eq_true, decide_eq_true_eq, decide_eq_true_eq]
  rfl

theorem numberedPair_iff {as bs : List UInt32} :
    numberedPair as bs = true ↔ ∃ digits : List UInt32, digits ≠ [] ∧
      (∀ digit ∈ digits, '0'.val ≤ digit ∧ digit ≤ '9'.val) ∧
      (as = 'C'.val :: digits ∧ bs = 'D'.val :: digits ∨
        as = 'D'.val :: digits ∧ bs = 'C'.val :: digits) := by
  constructor
  · intro h
    cases as with
    | nil => cases h
    | cons a as =>
      cases bs with
      | nil => cases h
      | cons b bs =>
        simp only [numberedPair, Bool.and_eq_true, Bool.or_eq_true, beq_iff_eq, List.all_eq_true,
          isDigit_iff, Bool.not_eq_true', List.isEmpty_eq_false_iff] at h
        obtain ⟨⟨⟨heads, some⟩, rfl⟩, decimal⟩ := h
        refine ⟨as, some, decimal, heads.imp ?_ ?_⟩
        · rintro ⟨rfl, rfl⟩
          exact ⟨rfl, rfl⟩
        · rintro ⟨rfl, rfl⟩
          exact ⟨rfl, rfl⟩
  · rintro ⟨digits, some, decimal, same⟩
    have all : digits.all isDigit = true := List.all_eq_true.2 fun digit hd => isDigit_iff.2 (decimal digit hd)
    have nonempty : digits.isEmpty = false := List.isEmpty_eq_false_iff.2 some
    rcases same with ⟨rfl, rfl⟩ | ⟨rfl, rfl⟩ <;>
      rw [numberedPair, all, nonempty, beq_self_eq_true] <;> rfl

/-- Two names form a pair just if they are halves, in one order or the other. -/
theorem isPair_iff : isPair a b = true ↔ a.Halves b ∨ b.Halves a := by
  simp only [isPair, Bool.or_eq_true, Bool.and_eq_true, beq_iff_eq, numberedPair_iff]
  constructor
  · rintro ((⟨ha, hb⟩ | ⟨ha, hb⟩) | ⟨digits, some, decimal, ⟨ha, hb⟩ | ⟨ha, hb⟩⟩)
    · exact .inl (.named ha hb)
    · exact .inr (.named hb ha)
    · exact .inl (.numbered some decimal ha hb)
    · exact .inr (.numbered some decimal hb ha)
  · rintro (halves | halves)
    · cases halves with
      | named ha hb => exact .inl (.inl ⟨ha, hb⟩)
      | numbered some decimal ha hb => exact .inr ⟨_, some, decimal, .inl ⟨ha, hb⟩⟩
    · cases halves with
      | named hb ha => exact .inl (.inr ⟨ha, hb⟩)
      | numbered some decimal hb ha => exact .inr ⟨_, some, decimal, .inr ⟨ha, hb⟩⟩

end Name

/-- The two processors that a row names, be they partners or only addressed; who offers does not
matter. -/
def Row.processors (row : Row) : Sym2 ProcessorId := s(row.offering.id, row.accepting.id)

namespace Registry

variable {r : Registry} {i j : RowIndex}

theorem samePartners_iff {a b : Row} : samePartners a b = true ↔ a.processors = b.processors := by
  simp only [samePartners, Row.processors, Sym2.eq_iff, Bool.or_eq_true, Bool.and_eq_true,
    decide_eq_true_eq]

/-- Whether the variable at `j` is a candidate for the other half of the variable at `i`: another variable
that names the same two processors, and whose name goes with its name. -/
structure IsCompanion (r : Registry) (i j : RowIndex) : Prop where
  used : ¬(r.rows.get j).Free
  other : j ≠ i
  processors : (r.rows.get j).processors = (r.rows.get i).processors
  halves : (r.rows.get i).name.Halves (r.rows.get j).name ∨
    (r.rows.get j).name.Halves (r.rows.get i).name

theorem IsCompanion.symm (h : r.IsCompanion i j) (used : ¬(r.rows.get i).Free) : r.IsCompanion j i :=
  ⟨used, h.other.symm, h.processors.symm, h.halves.symm⟩

theorem isCompanion_iff : r.IsCompanion i j ↔ ¬(r.rows.get j).Free ∧ j ≠ i ∧
    samePartners (r.rows.get j) (r.rows.get i) = true ∧
    Name.isPair (r.rows.get i).name (r.rows.get j).name = true := by
  rw [samePartners_iff, Name.isPair_iff]
  exact ⟨fun h => ⟨h.used, h.other, h.processors, h.halves⟩, fun h => ⟨h.1, h.2.1, h.2.2.1, h.2.2.2⟩⟩

instance (r : Registry) (i j : RowIndex) : Decidable (r.IsCompanion i j) :=
  decidable_of_iff _ isCompanion_iff.symm

/-! ## The first candidate -/

/-- The first variable with a property is at the first place of a row that holds one with it. -/
theorem find?_usedRows (r : Registry) (p : Row → Bool) :
    r.usedRows.find? p = (first? r.rows fun row => !decide row.Free && p row).map r.rows.get := by
  rw [usedRows, List.find?_filter]
  simp only [Bool.decide_and, Bool.decide_eq_true]
  cases hi : first? r.rows fun row => !decide row.Free && p row with
  | none =>
    rw [Option.map_none, List.find?_eq_none]
    intro row hrow
    obtain ⟨i, rfl⟩ := mem_toList.1 hrow
    exact ne_true_of_eq_false (first?_eq_none_iff.1 hi i)
  | some i =>
    obtain ⟨here, before⟩ := first?_eq_some_iff.1 hi
    rw [Option.map_some, List.find?_eq_some_iff_getElem]
    refine ⟨here, i, by simp only [Vector.length_toList, Fin.is_lt], rfl, fun j hj => ?_⟩
    rw [Bool.not_eq_true']
    exact before ⟨j, Nat.lt_trans hj i.isLt⟩ hj

/-- Either there is a candidate, and the first one is taken, or there is none, and no key is given. -/
theorem pairingKey_cases (h : r.WellFormed) (used : ¬(r.rows.get i).Free) :
    (∃ j, r.IsCompanion i j ∧ (∀ l < j, ¬r.IsCompanion i l) ∧
        r.pairingKey (r.rows.get i).key Name.isPair = (r.rows.get j).key) ∨
      (∀ j, ¬r.IsCompanion i j) ∧ r.pairingKey (r.rows.get i).key Name.isPair = .none := by
  have candidate (j : RowIndex) : (!decide (r.rows.get j).Free &&
      decide ((r.rows.get j).key ≠ (r.rows.get i).key ∧
        samePartners (r.rows.get j) (r.rows.get i) = true ∧
        Name.isPair (r.rows.get i).name (r.rows.get j).name = true)) = decide (r.IsCompanion i j) := by
    rw [Bool.eq_iff_iff, decide_eq_true_eq, isCompanion_iff, Bool.and_eq_true, Bool.not_eq_true',
      decide_eq_false_iff_not, decide_eq_true_eq]
    refine and_congr_right fun used' => and_congr_left' (not_congr ⟨fun same => ?_, fun same => ?_⟩)
    · exact h.rows.keys j i used' same
    · rw [same]
  simp only [pairingKey, getVar, h.findVar_key used, Option.map_some, find?_usedRows]
  cases hj : first? r.rows _ with
  | none =>
    refine .inr ⟨fun j => ?_, rfl⟩
    have not := first?_eq_none_iff.1 hj j
    rwa [candidate, decide_eq_false_iff_not] at not
  | some j =>
    obtain ⟨here, before⟩ := first?_eq_some_iff.1 hj
    refine .inl ⟨j, ?_, fun l hl => ?_, rfl⟩
    · rwa [candidate, decide_eq_true_eq] at here
    · have not := before l hl
      rwa [candidate, decide_eq_false_iff_not] at not

theorem pairingKey_first (h : r.WellFormed) (used : ¬(r.rows.get i).Free) (candidate : r.IsCompanion i j)
    (first : ∀ l < j, ¬r.IsCompanion i l) :
    r.pairingKey (r.rows.get i).key Name.isPair = (r.rows.get j).key := by
  rcases pairingKey_cases h used with ⟨k, candidate', first', found⟩ | ⟨nowhere, -⟩
  · rcases lt_trichotomy j k with before | rfl | after
    · exact absurd candidate (first' j before)
    · exact found
    · exact absurd candidate' (first k after)
  · exact absurd candidate (nowhere j)

theorem pairingKey_eq_none_iff (h : r.WellFormed) (used : ¬(r.rows.get i).Free) :
    r.pairingKey (r.rows.get i).key Name.isPair = .none ↔ ∀ j, ¬r.IsCompanion i j := by
  rcases pairingKey_cases h used with ⟨j, candidate, -, found⟩ | ⟨nowhere, none⟩
  · refine iff_of_false (fun none => ?_) fun nowhere => nowhere j candidate
    exact candidate.used (found.symm.trans none)
  · exact iff_of_true none nowhere

/-! ## Back and forth -/

/-- For every variable, the key of its other half is that of the first other variable that names the same
two processors in either order, and whose name goes with its name; there is no such key just if there is no
such variable. Whichever variable is found is another one and has an other half too; and two variables of
which each is the only candidate of the other find each other. -/
theorem pairing_keys_are_mutual (h : r.Reachable) (used : ¬(r.rows.get i).Free) :
    let key := (r.rows.get i).key
    let paired key := r.pairingKey key Name.isPair
    (∀ j, r.IsCompanion i j → (∀ l < j, ¬r.IsCompanion i l) → paired key = (r.rows.get j).key) ∧
      (paired key = .none ↔ ∀ j, ¬r.IsCompanion i j) ∧
      (¬(paired key).IsNone → paired key ≠ key ∧ ¬(paired (paired key)).IsNone) ∧
      ∀ j, (∀ l, r.IsCompanion i l ↔ l = j) → (∀ l, r.IsCompanion j l ↔ l = i) →
        paired key = (r.rows.get j).key ∧ paired (r.rows.get j).key = key := by
  intro key paired
  have well := h.wellFormed
  refine ⟨fun j candidate first => pairingKey_first well used candidate first,
    pairingKey_eq_none_iff well used, fun named => ?_, fun j only only' => ⟨?_, ?_⟩⟩
  · rcases pairingKey_cases well used with ⟨j, candidate, -, taken⟩ | ⟨-, none⟩
    · have found : paired key = (r.rows.get j).key := taken
      rw [found]
      refine ⟨fun same => candidate.other (well.rows.keys j i candidate.used same), fun none => ?_⟩
      exact (pairingKey_eq_none_iff well candidate.used).1 none i (candidate.symm used)
    · exact absurd none named
  · exact pairingKey_first well used ((only j).2 rfl) fun l hl candidate => hl.ne ((only l).1 candidate)
  · exact pairingKey_first well ((only j).2 rfl).used ((only' i).2 rfl)
      fun l hl candidate => hl.ne ((only' l).1 candidate)

/-- One half is coupled and the other one is only offered, by the partner that has accepted the first one.
A variable of the same name that a third processor offers is no candidate. -/
theorem pairing_keys_are_mutual_of_offer :
    let a := Partner.ofProcess (.single 1001) 10 5001
    let b := Partner.ofProcess (.single 1002) 20 5002
    let c := Partner.ofProcess (.single 1003) 30 5003
    let control := Name.ofText "C17"
    let data := Name.ofText "D17"
    let r := empty.run [.matchOrMake control b.id a, .matchOrMake control a.id b,
      .matchOrMake data b.id c, .matchOrMake data a.id b]
    let paired key := r.pairingKey key Name.isPair
    r.Reachable ∧ (r.rows.get 0).coupling = .coupled ∧ (r.rows.get 2).coupling = .offered ∧
      paired (r.rows.get 0).key = (r.rows.get 2).key ∧ paired (r.rows.get 2).key = (r.rows.get 0).key := by
  intro a b c control data r paired
  have known : (¬(r.rows.get 0).Free ∧ (r.rows.get 0).coupling = .coupled ∧
      (r.rows.get 2).coupling = .offered) ∧
      (∀ l, r.IsCompanion 0 l ↔ l = 2) ∧ ∀ l, r.IsCompanion 2 l ↔ l = 0 := by decide +kernel
  obtain ⟨⟨used, coupled, offered⟩, only, only'⟩ := known
  exact ⟨⟨_, rfl⟩, coupled, offered, (pairing_keys_are_mutual ⟨_, rfl⟩ used).2.2.2 2 only only'⟩

end Registry

end SharedVariables
