import Mathlib.Logic.Relation
import SharedVariables.Registry.Basic

/-!
# Changing a table entry by entry

An operation that treats every entry of a table alike is a row of changes of one entry each
(`steps_map`), so that what single changes keep, it keeps. The lemmas on `findVar` and `findSlot`
say what is known of a place that was looked up.
-/

namespace SharedVariables

open Relation

section Table

variable {α β : Type} {n : Nat}

theorem ext_get {v w : Vector α n} (h : ∀ i : Fin n, v.get i = w.get i) : v = w :=
  Vector.ext fun i hi => h ⟨i, hi⟩

/-- The entries of a table, first to last. -/
theorem toList_eq_map (v : Vector α n) : v.toList = (List.finRange n).map v.get := by
  refine List.ext_getElem (by simp only [Vector.length_toList, List.length_map, List.length_finRange]) ?_
  intro i hi hi'
  simp only [Vector.getElem_toList, List.getElem_map, List.getElem_finRange]
  rfl

theorem mem_toList {v : Vector α n} {a : α} : a ∈ v.toList ↔ ∃ i : Fin n, v.get i = a := by
  rw [Vector.mem_toList_iff, Vector.mem_iff_getElem]
  exact ⟨fun ⟨i, hi, h⟩ => ⟨⟨i, hi⟩, h⟩, fun ⟨i, h⟩ => ⟨i.1, i.isLt, h⟩⟩

@[simp] theorem get_map (f : α → β) (v : Vector α n) (i : Fin n) : (v.map f).get i = f (v.get i) :=
  Vector.getElem_map ..

@[simp] theorem get_replicate (a : α) (i : Fin n) : (Vector.replicate n a).get i = a :=
  Vector.getElem_replicate ..

theorem get_put (v : Vector α n) (i j : Fin n) (a : α) :
    (put v i a).get j = if i = j then a else v.get j := by
  refine (Vector.getElem_set ..).trans ?_
  simp only [← Fin.ext_iff]
  rfl

theorem put_get (v : Vector α n) (i : Fin n) : put v i (v.get i) = v := by
  refine ext_get fun j => ?_
  rw [get_put]
  split
  · rename_i h
    rw [h]
  · rfl

theorem put_put (v : Vector α n) (i : Fin n) (a b : α) : put (put v i a) i b = put v i b :=
  Vector.set_set ..

theorem put_comm (v : Vector α n) {i j : Fin n} (differ : i ≠ j) (a b : α) :
    put (put v i a) j b = put (put v j b) i a :=
  Vector.set_comm a b fun same => differ (Fin.ext same)

theorem countP_put (p : α → Bool) (v : Vector α n) (i : Fin n) (a : α) :
    (put v i a).countP p = v.countP p - (if p (v.get i) then 1 else 0) + if p a then 1 else 0 :=
  Vector.countP_set i.isLt

/-- What is looked up depends on which entries satisfy the property. -/
theorem first?_congr {v : Vector α n} {w : Vector β n} {p : α → Bool} {q : β → Bool}
    (h : ∀ i : Fin n, p (v.get i) = q (w.get i)) : first? v p = first? w q := by
  refine Option.ext fun i => ?_
  rw [first?_eq_some_iff, first?_eq_some_iff]
  simp only [h]

/-- A table whose first `k` entries have been treated. -/
def treated (f : α → α) (v : Vector α n) (k : Nat) : Vector α n :=
  .ofFn fun j => if j.1 < k then f (v.get j) else v.get j

theorem get_treated (f : α → α) (v : Vector α n) (k : Nat) (j : Fin n) :
    (treated f v k).get j = if j.1 < k then f (v.get j) else v.get j :=
  Vector.getElem_ofFn ..

theorem treated_succ (f : α → α) (v : Vector α n) (i : Fin n) :
    treated f v (i + 1) = put (treated f v i) i (f (v.get i)) := by
  refine ext_get fun j => ?_
  rw [get_put, get_treated, get_treated]
  by_cases h : i = j
  · subst h
    rw [if_pos rfl, if_pos (Nat.lt_succ_self _)]
  · have hne : i.1 ≠ j.1 := fun he => h (Fin.ext he)
    simp only [h, ↓reduceIte, show (j.1 < i.1 + 1) = (j.1 < i.1) by simp only [eq_iff_iff]; omega]

/-- Treating every entry of a table is treating one after the other, each as it was. -/
theorem steps_map {R : Vector α n → Vector α n → Prop} {f : α → α} {v : Vector α n}
    (h : ∀ (w : Vector α n) (i : Fin n), w.get i = v.get i →
      ReflTransGen R w (put w i (f (w.get i)))) :
    ReflTransGen R v (v.map f) := by
  have go : ∀ k ≤ n, ReflTransGen R v (treated f v k) := by
    intro k
    induction k with
    | zero =>
      intro _
      rw [show treated f v 0 = v from ext_get fun j => get_treated f v 0 j]
    | succ k ih =>
      intro hk
      have untreated : (treated f v k).get ⟨k, hk⟩ = v.get ⟨k, hk⟩ :=
        (get_treated ..).trans (if_neg (Nat.lt_irrefl k))
      have step := h _ ⟨k, hk⟩ untreated
      rw [untreated] at step
      exact treated_succ f v ⟨k, hk⟩ ▸ (ih (by omega)).trans step
  have all : v.map f = treated f v n := ext_get fun j => by rw [get_map, get_treated, if_pos j.isLt]
  exact all ▸ go n (Nat.le_refl n)

end Table

namespace Registry

theorem eq_of_tables {r r' : Registry} (seq : r'.seq = r.seq) (rows : r'.rows = r.rows)
    (slots : r'.slots = r.slots) : r' = r := by
  cases r
  cases r'
  simp only [mk.injEq]
  exact ⟨seq, rows, slots⟩

theorem modifyRow_self (r : Registry) (i : RowIndex) (f : Row → Row) :
    (r.modifyRow i f).rows.get i = f (r.rows.get i) := by
  rw [modifyRow, get_put, if_pos rfl]

/-! ## Places that are looked up -/

theorem rows_empty (i : RowIndex) : empty.rows.get i = .empty := get_replicate ..

theorem slots_empty (i : SlotIndex) : empty.slots.get i = .empty := get_replicate ..

variable {r : Registry}

theorem findVar_eq_some {key : Key} {i : RowIndex} (h : r.findVar key = some i) :
    ¬(r.rows.get i).Free ∧ (r.rows.get i).key = key := by
  simp only [findVar] at h
  split at h
  · cases h
  · rename_i hk
    have hi : (r.rows.get i).key = key := by simpa using (first?_eq_some_iff.1 h).1
    exact ⟨by rw [Row.Free, hi]; exact hk, hi⟩

theorem findVar_eq_none_iff {key : Key} :
    r.findVar key = none ↔ key.IsNone ∨ ∀ i : RowIndex, (r.rows.get i).key ≠ key := by
  simp only [findVar]
  split
  · simp [*]
  · rename_i hk
    simp only [hk, false_or, first?_eq_none_iff, decide_eq_false_iff_not, ne_eq]

/-- Where a variable is depends on which rows have its key. -/
theorem findVar_congr {r' : Registry} {key : Key}
    (h : ∀ i : RowIndex, (r'.rows.get i).key = key ↔ (r.rows.get i).key = key) :
    r'.findVar key = r.findVar key := by
  simp only [findVar]
  split
  · rfl
  · exact first?_congr fun i => decide_eq_decide.2 (h i)

theorem findSlot_eq_some {id : ProcessorId} {i : SlotIndex} (h : r.findSlot id = some i) :
    (r.slots.get i).Holds id := by
  simpa using (first?_eq_some_iff.1 h).1

theorem findSlot_eq_none_iff {id : ProcessorId} :
    r.findSlot id = none ↔ ∀ i : SlotIndex, ¬(r.slots.get i).Holds id := by
  simp only [findSlot, first?_eq_none_iff, decide_eq_false_iff_not]

end Registry

end SharedVariables
