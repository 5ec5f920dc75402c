import SharedVariables.Text.Utf8

/-!
# Variable names

A name is a buffer of 64 code points that ends in unused zeros. Here it is kept without them, so
that two names are equal exactly when their buffers are. The code points before the first zero are
the *used* ones; they are what the name reads as and what matching looks at. A zero may also stand
in the middle, and a code point need not be a Unicode character.

`Name.Matches` compares a stored name with a requested one: equal names match, and at the first
difference a star on either side stands for whatever follows on the other.
-/

namespace SharedVariables

/-- The most code points that a name has. -/
def nameCapacity : Nat := 64

/-- A list of code points without the zeros at its end. -/
def withoutTrailingZeros (points : List UInt32) : List UInt32 :=
  (points.reverse.dropWhile (· == 0)).reverse

theorem length_withoutTrailingZeros_le (points : List UInt32) :
    (withoutTrailingZeros points).length ≤ points.length := by
  simpa [withoutTrailingZeros] using
    (List.dropWhile_sublist (l := points.reverse) (· == 0)).length_le

theorem getLast?_withoutTrailingZeros (points : List UInt32) :
    (withoutTrailingZeros points).getLast? ≠ some 0 := by
  intro h
  rw [withoutTrailingZeros, List.getLast?_reverse] at h
  have := List.head?_dropWhile_not (· == 0) points.reverse
  rw [h] at this
  simp at this

/-- Removing trailing zeros leaves a list alone that has none. -/
theorem withoutTrailingZeros_eq_self {points : List UInt32} (h : points.getLast? ≠ some 0) :
    withoutTrailingZeros points = points := by
  rw [withoutTrailingZeros]
  cases hr : points.reverse with
  | nil => simpa using hr.symm
  | cons p ps =>
    have hp : points.getLast? = some p := by rw [← List.head?_reverse, hr]; rfl
    have : p ≠ 0 := fun h0 => h (h0 ▸ hp)
    rw [List.dropWhile_cons_of_neg (by simpa using this), ← hr, List.reverse_reverse]

/-- The name of a variable: its code points without the unused zeros at the end. -/
structure Name where
  points : List UInt32
  length_le : points.length ≤ nameCapacity
  getLast?_ne : points.getLast? ≠ some 0
deriving DecidableEq

namespace Name

/-- The name with the given code points; those beyond the capacity are dropped. -/
def ofPoints (points : List UInt32) : Name where
  points := withoutTrailingZeros (points.take nameCapacity)
  length_le := Nat.le_trans (length_withoutTrailingZeros_le _) (List.length_take_le _ _)
  getLast?_ne := getLast?_withoutTrailingZeros _

/-- The code points of a name make that name. -/
theorem ofPoints_points (n : Name) : ofPoints n.points = n := by
  rcases n with ⟨points, short, unpadded⟩
  simp only [ofPoints, List.take_of_length_le short, withoutTrailingZeros_eq_self unpadded]

/-- The name without code points. -/
def empty : Name := ⟨[], by decide, by decide⟩

/-- The name that reads as the first 64 characters of a text. -/
def ofText (s : String) : Name := ofPoints (s.toList.map Char.val)

/-- The name that reads as the whole of a text, if the text is not too long. -/
def ofText? (s : String) : Option Name :=
  if s.length ≤ nameCapacity then some (ofText s) else none

/-- All 64 code points, the unused ones at the end included. -/
def buffer (n : Name) : List UInt32 :=
  n.points ++ List.replicate (nameCapacity - n.points.length) 0

/-- The code points before the first zero. -/
def used (n : Name) : List UInt32 := n.points.takeWhile (· != 0)

/-- The character with a given code point; the replacement character if there is none. -/
def charOf (point : UInt32) : Char :=
  if point.toNat.isValidChar then Char.ofNat point.toNat else Text.replacement

/-- What a name reads as. -/
def text (n : Name) : String := String.ofList (n.used.map charOf)

/-- The two stars that stand for any ending: `*` and `⋆`. -/
def isWildcard (point : UInt32) : Bool := point == 0x2A || point == 0x22C6

/-- Whether a star is among the used code points. -/
def hasWildcard (n : Name) : Bool := n.used.any isWildcard

/-- Compares two buffers given without their trailing zeros. A difference matches if a star is on
either side of it; a zero common to both ends the comparison. -/
def matchPoints : List UInt32 → List UInt32 → Bool
  | [], [] => true
  | [], r :: _ => r == 0 || isWildcard r
  | s :: _, [] => s == 0 || isWildcard s
  | s :: stored, r :: requested =>
    if s = r then s == 0 || matchPoints stored requested else isWildcard s || isWildcard r

/-- Whether a stored name matches a requested one. -/
def Matches (stored requested : Name) : Prop :=
  matchPoints stored.points requested.points = true

instance (stored requested : Name) : Decidable (stored.Matches requested) :=
  inferInstanceAs (Decidable (_ = true))

/-- Whether a code point is a decimal digit. -/
def isDigit (point : UInt32) : Bool := 0x30 ≤ point && point ≤ 0x39

/-- The used code points of `CTL`. -/
def controlPoints : List UInt32 := [0x43, 0x54, 0x4C]

/-- The used code points of `DAT`. -/
def dataPoints : List UInt32 := [0x44, 0x41, 0x54]

/-- Whether two lists of used code points are `C` and `D`, in either order, before the same nonempty
row of digits. -/
def numberedPair : List UInt32 → List UInt32 → Bool
  | a :: as, b :: bs =>
    (a == 0x43 && b == 0x44 || a == 0x44 && b == 0x43) && !as.isEmpty && as == bs && as.all isDigit
  | _, _ => false

/-- Whether two names are the halves of one compound variable: `CTL` and `DAT`, or `C` and `D`
before the same digits, in either order. -/
def isPair (a b : Name) : Bool :=
  a.used == controlPoints && b.used == dataPoints ||
    a.used == dataPoints && b.used == controlPoints || numberedPair a.used b.used

end Name

end SharedVariables
