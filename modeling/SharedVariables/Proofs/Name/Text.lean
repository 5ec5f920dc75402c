import Mathlib.Data.List.TakeWhile
import SharedVariables.Proofs.Name.FirstDifference

/-!
# Names and what they read as

A name is a buffer of 64 code points, it has used code points, and it reads as a text. Whatever code
points a name is made of, its buffer holds the first 64 of them and then zeros
(`buffer_ofPoints_padded`). What it reads as has a character for every used code point and no NUL, so the
name of that text has just these characters (`points_ofText_text`): it is the name again if every used
code point is that of a character and nothing but zeros stands behind them (`names_as_text`).
-/

namespace SharedVariables

/-- What is taken off a list of code points are zeros. -/
theorem withoutTrailingZeros_append (points : List UInt32) :
    withoutTrailingZeros points ++
      List.replicate (points.length - (withoutTrailingZeros points).length) 0 = points := by
  have zeros : points.reverse.takeWhile (· == 0) =
      List.replicate (points.reverse.takeWhile (· == 0)).length 0 :=
    List.eq_replicate_of_mem fun p hp => by simpa using List.mem_takeWhile_imp hp
  have parts := List.takeWhile_append_dropWhile (p := (· == 0)) (l := points.reverse)
  have lengths := congrArg List.length parts
  rw [List.length_append, List.length_reverse] at lengths
  have count : points.length - (withoutTrailingZeros points).length =
      (points.reverse.takeWhile (· == 0)).length := by
    rw [withoutTrailingZeros, List.length_reverse]
    omega
  calc
    _ = (points.reverse.dropWhile (· == 0)).reverse ++ (points.reverse.takeWhile (· == 0)).reverse := by
      rw [count, ← List.reverse_replicate, ← zeros, withoutTrailingZeros]
    _ = points := by rw [← List.reverse_append, parts, List.reverse_reverse]

theorem withoutTrailingZeros_append_zeros (points : List UInt32) (k : Nat) :
    withoutTrailingZeros (points ++ List.replicate k 0) = withoutTrailingZeros points := by
  rw [withoutTrailingZeros, List.reverse_append, List.reverse_replicate,
    List.dropWhile_append_of_pos fun p hp => beq_iff_eq.2 (List.eq_of_mem_replicate hp),
    withoutTrailingZeros]

namespace Name

/-! ## Buffers -/

theorem length_buffer (name : Name) : name.buffer.length = nameCapacity := by
  have := name.length_le
  rw [buffer, List.length_append, List.length_replicate]
  omega

/-- The whole buffer of a name makes that name. -/
theorem ofPoints_buffer (name : Name) : ofPoints name.buffer = name := by
  have points : withoutTrailingZeros (name.buffer.take nameCapacity) = name.points := by
    rw [List.take_of_length_le name.length_buffer.le, buffer, withoutTrailingZeros_append_zeros,
      withoutTrailingZeros_eq_self name.getLast?_ne]
  simp only [ofPoints, points]

/-- Names are the same just if their buffers are. -/
theorem buffer_inj {a b : Name} : a.buffer = b.buffer ↔ a = b := by
  refine ⟨fun same => ?_, congrArg buffer⟩
  rw [← ofPoints_buffer a, same, ofPoints_buffer]

/-- Any 64 code points are those of a name. -/
theorem buffer_ofPoints {points : List UInt32} (h : points.length = nameCapacity) :
    (ofPoints points).buffer = points := by
  simp only [buffer, ofPoints, List.take_of_length_le h.le]
  rw [← h]
  exact withoutTrailingZeros_append points

/-- A name is made of the first 64 code points that it is given, and of zeros behind them. -/
theorem buffer_ofPoints_padded (points : List UInt32) :
    (ofPoints points).buffer =
      points.take nameCapacity ++ List.replicate (nameCapacity - points.length) 0 := by
  have length : (points.take nameCapacity ++
      List.replicate (nameCapacity - points.length) 0).length = nameCapacity := by
    rw [List.length_append, List.length_take, List.length_replicate]
    omega
  have same : ofPoints (points.take nameCapacity ++
      List.replicate (nameCapacity - points.length) 0) = ofPoints points := by
    simp only [ofPoints, List.take_of_length_le length.le, withoutTrailingZeros_append_zeros]
  rw [← same, buffer_ofPoints length]

/-- Nothing but zeros stands behind the used code points of a name just if it keeps no others. -/
theorem zeros_behind_used_iff (name : Name) :
    (∀ p ∈ name.buffer.drop name.used.length, p = 0) ↔ name.used = name.points := by
  obtain ⟨rest, split⟩ : name.used <+: name.points := List.takeWhile_prefix _
  constructor
  · intro zeros
    rw [buffer, ← split, List.append_assoc, List.drop_left] at zeros
    cases last : rest.getLast? with
    | none => rw [← split, List.getLast?_eq_none_iff.1 last, List.append_nil]
    | some p =>
      have zero : p = 0 := zeros p (List.mem_append_left _ (List.mem_of_getLast? last))
      refine absurd ?_ name.getLast?_ne
      rw [← split, List.getLast?_append, last, zero, Option.some_or]
  · intro all p hp
    rw [all, buffer, List.drop_left] at hp
    exact List.eq_of_mem_replicate hp

/-! ## Characters -/

theorem charOf_val (c : Char) : charOf c.val = c := by
  rw [charOf, if_pos (show c.val.toNat.isValidChar from c.valid), Char.toNat_val, Char.ofNat_toNat]

/-- A code point is that of the character which is shown for it, just if it is that of any. -/
theorem val_charOf_iff {point : UInt32} : (charOf point).val = point ↔ point.toNat.isValidChar := by
  constructor
  · intro same
    rw [← same]
    exact (charOf point).valid
  · intro valid
    exact congrArg Char.val (charOf_val ⟨point, valid⟩)

theorem val_charOf_ne_zero {point : UInt32} (nonzero : point ≠ 0) : (charOf point).val ≠ 0 := by
  by_cases valid : point.toNat.isValidChar
  · rwa [val_charOf_iff.2 valid]
  · rw [charOf, if_neg valid]
    decide

/-! ## Texts -/

theorem toList_text (name : Name) : name.text.toList = name.used.map charOf := String.toList_ofList

theorem length_used_le (name : Name) : name.used.length ≤ nameCapacity :=
  Nat.le_trans (List.takeWhile_prefix _).length_le name.length_le

theorem length_text_le (name : Name) : name.text.length ≤ nameCapacity := by
  rw [← String.length_toList, toList_text, List.length_map]
  exact name.length_used_le

theorem ne_zero_of_mem_used {name : Name} {p : UInt32} (hp : p ∈ name.used) : p ≠ 0 := by
  simpa using List.mem_takeWhile_imp hp

/-- No character of what a name reads as is NUL. -/
theorem nul_notMem_text (name : Name) : '\x00' ∉ name.text.toList := by
  rw [toList_text, List.mem_map]
  rintro ⟨p, hp, nul⟩
  exact val_charOf_ne_zero (ne_zero_of_mem_used hp) (congrArg Char.val nul)

/-- What has room in a name and holds no zero is kept and used. -/
theorem used_ofPoints {points : List UInt32} (fits : points.length ≤ nameCapacity)
    (nonzero : ∀ p ∈ points, p ≠ 0) :
    (ofPoints points).points = points ∧ (ofPoints points).used = points := by
  have kept : (ofPoints points).points = points :=
    points_ofPoints fits fun last => nonzero 0 (List.mem_of_getLast? last) rfl
  refine ⟨kept, ?_⟩
  rw [used, kept]
  exact List.takeWhile_eq_self_iff.2 fun p hp => bne_iff_ne.2 (nonzero p hp)

/-- The name of what a name reads as has the characters of the used code points, and no more. -/
theorem points_ofText_text (name : Name) :
    (ofText name.text).points = name.used.map fun p => (charOf p).val := by
  have shown : name.text.toList.map Char.val = name.used.map fun p => (charOf p).val := by
    rw [toList_text, List.map_map]
    rfl
  rw [ofText, shown]
  refine (used_ofPoints ?_ ?_).1
  · rw [List.length_map]
    exact name.length_used_le
  · rw [List.forall_mem_map]
    exact fun p hp => val_charOf_ne_zero (ne_zero_of_mem_used hp)

theorem ofText_text_iff (name : Name) :
    ofText name.text = name ↔
      (∀ p ∈ name.used, p.toNat.isValidChar) ∧ name.used = name.points := by
  have points : ofText name.text = name ↔ (name.used.map fun p => (charOf p).val) = name.points := by
    rw [← points_ofText_text]
    refine ⟨congrArg Name.points, fun same => ?_⟩
    calc ofText name.text
      _ = ofPoints (ofText name.text).points := (ofPoints_points _).symm
      _ = ofPoints name.points := congrArg ofPoints same
      _ = name := ofPoints_points name
  have valid : (name.used.map fun p => (charOf p).val) = name.used ↔
      ∀ p ∈ name.used, p.toNat.isValidChar := by
    simp only [← val_charOf_iff, ← List.map_inj_left, List.map_id']
  rw [points, ← valid]
  constructor
  · intro same
    have length := congrArg List.length same
    rw [List.length_map] at length
    have all : name.used = name.points := (List.takeWhile_prefix _).eq_of_length length
    exact ⟨same.trans all.symm, all⟩
  · rintro ⟨shown, all⟩
    exact shown.trans all

/-- A text is what its name reads as just if it has room in a name and no NUL. -/
theorem text_ofText_iff (s : String) :
    (ofText s).text = s ↔ s.length ≤ nameCapacity ∧ '\x00' ∉ s.toList := by
  constructor
  · intro same
    rw [← same]
    exact ⟨length_text_le _, nul_notMem_text _⟩
  · rintro ⟨fits, noNul⟩
    have used : (ofText s).used = s.toList.map Char.val := by
      refine (used_ofPoints ?_ ?_).2
      · rwa [List.length_map, String.length_toList]
      · rw [List.forall_mem_map]
        exact fun c hc zero => noNul (Char.val_inj.1 (show c.val = Char.val '\x00' from zero) ▸ hc)
    rw [← String.toList_inj, toList_text, used, List.map_map]
    exact List.map_id'' charOf_val _

/-- A name that is made of a text has its first 64 characters, and zeros behind them. -/
theorem buffer_ofText (s : String) :
    (ofText s).buffer = (s.toList.take nameCapacity).map Char.val ++
      List.replicate (nameCapacity - s.length) 0 := by
  rw [ofText, buffer_ofPoints_padded, List.map_take, List.length_map, String.length_toList]

/-- A text that is read as a name is kept whole; one that is too long is refused. -/
theorem ofText?_eq_some_iff {s : String} {name : Name} :
    ofText? s = some name ↔ s.length ≤ nameCapacity ∧
      name.buffer = s.toList.map Char.val ++ List.replicate (nameCapacity - s.length) 0 := by
  rw [ofText?]
  split
  · rename_i fits
    have all : s.toList.take nameCapacity = s.toList :=
      List.take_of_length_le (by rwa [String.length_toList])
    rw [Option.some_inj, ← buffer_inj, buffer_ofText, all, and_iff_right fits, eq_comm]
  · rename_i long
    exact iff_of_false nofun fun h => long h.1

/-- A name comes back from what it reads as just if every code point before its first zero is that of a
character and all behind these are zeros, and it does not matter whether a text that is too long would be
refused. A text comes back from its name just if it has at most 64 characters and no NUL. If texts are
refused, it is those of more than 64 characters, and the others are kept whole; if not, the first 64
characters are kept. -/
theorem names_as_text (name : Name) (s : String) :
    let used := untilZero name.buffer
    (ofText name.text = name ↔
        (∀ p ∈ used, p.toNat.isValidChar) ∧ ∀ p ∈ name.buffer.drop used.length, p = 0) ∧
      (ofText? name.text = some name ↔ ofText name.text = name) ∧
      ((ofText s).text = s ↔ s.length ≤ 64 ∧ '\x00' ∉ s.toList) ∧
      ((∃ read, ofText? s = some read) ↔ s.length ≤ 64) ∧
      (ofText? s = some name ↔ s.length ≤ 64 ∧
        name.buffer = s.toList.map Char.val ++ List.replicate (64 - s.length) 0) ∧
      (ofText s).buffer = (s.toList.take 64).map Char.val ++ List.replicate (64 - s.length) 0 := by
  intro used
  have same : used = name.used := untilZero_buffer name
  refine ⟨?_, ?_, text_ofText_iff s, ?_, ofText?_eq_some_iff, buffer_ofText s⟩
  · rw [same, zeros_behind_used_iff]
    exact ofText_text_iff name
  · rw [ofText?, if_pos name.length_text_le, Option.some_inj]
  · exact ⟨fun ⟨read, accepted⟩ => (ofText?_eq_some_iff.1 accepted).1,
      fun fits => ⟨ofText s, if_pos fits⟩⟩

end Name

end SharedVariables
