import SharedVariables.Address.Printer
import SharedVariables.Proofs.Address.Number

/-!
# The addresses of hosts read back

The text of an address is read back as the address, in either family. A reader of an IPv6 address
looks for an IPv4 address in front of every group, and finds none in the digits of a group, which no
dot is behind (`ipv4_toDigits`); so the groups of a text are read one after the other
(`groups_joined`). The groups that a double colon stands for are zeros (`zerosAt_longestZeros`).
-/

namespace SharedVariables.Address

open Nat (toDigits)

variable {rest : List Char}

/-! ## IPv4 addresses -/

/-- The text of an IPv4 address, digit by digit. -/
theorem toList_ipv4Text (ip : Ipv4Address) :
    ip.text.toList = toDigits 10 ip.a.toNat ++ '.' :: (toDigits 10 ip.b.toNat ++
      '.' :: (toDigits 10 ip.c.toNat ++ '.' :: toDigits 10 ip.d.toNat)) := by
  have dot : (toString ".").toList = ['.'] := rfl
  simp [Ipv4Address.text, Nat.toString_eq_repr, dot]

/-- An IPv4 address is read back from its text. -/
theorem ipv4_text (ip : Ipv4Address) (h : Ends 10 rest) :
    ipv4 (ip.text.toList ++ rest) = some (ip, rest) := by
  have dot (cs : List Char) : Ends 10 ('.' :: cs) := ends_cons.2 (by decide)
  simp only [toList_ipv4Text, List.append_assoc, List.cons_append, ipv4, octet_toDigits _ (dot _),
    octet_toDigits _ h, Option.bind_eq_bind, Option.bind_some, char, if_pos]
  rfl

theorem octet_of_ends (h : Ends 10 rest) : octet rest = none := by
  rw [octet, number_of_ends _ _ h]
  rfl

theorem ipv4_of_ends (h : Ends 10 rest) : ipv4 rest = none := by
  rw [ipv4, octet_of_ends h]
  rfl

/-- There is no IPv4 address where no dot is behind the digits. -/
theorem ipv4_eq_none {cs : List Char} (h : (digits 10 cs).2.head? ≠ some '.') : ipv4 cs = none := by
  have first {b : UInt8} {behind : List Char} (read : octet cs = some (b, behind)) :
      behind = (digits 10 cs).2 := by
    simp only [octet, number] at read
    grind
  rw [ipv4]
  cases read : octet cs with
  | none => rfl
  | some result =>
    obtain ⟨b, behind⟩ := result
    have undotted : char '.' behind = none := by
      rw [first read]
      cases hd : (digits 10 cs).2 with
      | nil => rfl
      | cons c _ => exact if_neg fun dot => h (by rw [hd, dot]; rfl)
    simp [undotted]

/-! ## Groups -/

/-- What may be behind the digits of a group: the end, or a character that is neither a digit nor a
dot. -/
structure Closes (rest : List Char) : Prop where
  ends : Ends 16 rest
  dotless : rest.head? ≠ some '.'

theorem closes_cons {c : Char} {cs : List Char} (h : digitValue? 16 c = none) (dotless : c ≠ '.') :
    Closes (c :: cs) := ⟨ends_cons.2 h, by simpa using dotless⟩

theorem closes_colon (cs : List Char) : Closes (':' :: cs) := closes_cons (by decide) (by decide)

theorem Closes.decimal (h : Closes rest) : Ends 10 rest := h.ends.mono (by decide)

/-- The digits of a group are no IPv4 address: the decimal digits end within the group or with it, and what
follows is no dot. -/
theorem ipv4_toDigits (n : Nat) (h : Closes rest) : ipv4 (toDigits 16 n ++ rest) = none := by
  refine ipv4_eq_none ?_
  have undotted : ∀ c ∈ toDigits 16 n, c ≠ '.' :=
    Text.forall_mem_toDigits (by decide) (by decide)
  have behind := digits_of_ends h.decimal
  rw [digits, List.span_eq_takeWhile_dropWhile] at behind ⊢
  have stop := congrArg Prod.snd behind
  dsimp only at stop ⊢
  generalize toDigits 16 n = ds at undotted
  induction ds with
  | nil => rw [List.nil_append, stop]; exact h.dotless
  | cons d ds ih =>
    obtain ⟨first, others⟩ := List.forall_mem_cons.1 undotted
    rw [List.cons_append, List.dropWhile_cons]
    split
    · exact ih others
    · simpa using first

/-- The digits of groups, with a colon in front of each but for the first of an address. -/
def joined : (first : Bool) → List UInt16 → List Char
  | _, [] => []
  | first, g :: gs => (if first then [] else [':']) ++ toDigits 16 g.toNat ++ joined false gs

theorem toList_groupsText (gs : List UInt16) : (Ipv6Address.groupsText gs).toList = joined true gs := by
  have more (g : UInt16) (gs : List UInt16) : (Ipv6Address.groupsText (g :: gs)).toList =
      toDigits 16 g.toNat ++ joined false gs := by
    induction gs generalizing g with
    | nil => simp [Ipv6Address.groupsText, joined]
    | cons g' gs ih =>
      have := ih g'
      simp only [Ipv6Address.groupsText, List.map_cons, String.intercalate_cons_cons,
        String.toList_append, String.toList_ofList] at this ⊢
      rw [this]
      simp [joined]
  cases gs with
  | nil => rfl
  | cons g gs => exact (more g gs).trans (by simp [joined])

theorem joined_closes (gs : List UInt16) (h : Closes rest) : Closes (joined false gs ++ rest) := by
  cases gs with
  | nil => exact h
  | cons g gs => exact closes_colon _

theorem behindColon_colon {α : Type} (first : Bool) (r : List Char → Option (α × List Char))
    (cs : List Char) : behindColon first r ((if first then [] else [':']) ++ cs) = r cs := by
  cases first <;> simp [behindColon, char]

/-- The groups of a text are read, and then those behind it. -/
theorem groups_joined {left : Nat} {gs : List UInt16} (fits : gs.length ≤ left) (first : Bool)
    (h : Closes rest) :
    groups left first (joined first gs ++ rest) =
      ((gs ++ (groups (left - gs.length) (first && gs.isEmpty) rest).1.1,
        (groups (left - gs.length) (first && gs.isEmpty) rest).1.2),
        (groups (left - gs.length) (first && gs.isEmpty) rest).2) := by
  induction gs generalizing left first with
  | nil => simp [joined]
  | cons g gs ih =>
    cases left with
    | zero => exact absurd fits (Nat.not_succ_le_zero _)
    | succ left =>
      have small := g.toNat_lt
      have short : (toDigits 16 g.toNat).length ≤ 4 :=
        (Nat.length_toDigits_le_iff (by decide) (by decide)).2 (by omega)
      have closes := joined_closes gs h
      have read := ih (Nat.le_of_succ_le_succ fits) false
      rw [joined, List.append_assoc, List.append_assoc, groups, behindColon_colon,
        behindColon_colon, ipv4_toDigits _ closes, ite_self,
        number_toDigits (by decide) (by decide) short (by omega) closes.ends]
      simp [read]

/-- No more groups are read where neither reader finds one. -/
theorem groups_of_none {first : Bool} (left : Nat) (h : behindColon first ipv4 rest = none)
    (h' : behindColon first (number 16 4 0xFFFF) rest = none) :
    groups left first rest = (([], false), rest) := by
  cases left with
  | zero => rfl
  | succ left => rw [groups, h, h', ite_self]

/-- A double colon, or what is neither a colon nor a digit, ends the groups. -/
theorem groups_end (left : Nat) (first : Bool) (ends : Ends 16 rest)
    (h : rest.head? = some ':' → Ends 16 rest.tail) :
    groups left first rest = (([], false), rest) := by
  have none {α : Type} (r : List Char → Option (α × List Char))
      (hr : ∀ cs, Ends 16 cs → r cs = none) : behindColon first r rest = none := by
    cases first with
    | true => exact hr _ ends
    | false =>
      cases rest with
      | nil => rfl
      | cons c cs =>
        simp only [behindColon, char]
        by_cases colon : c = ':'
        · simpa [colon] using hr _ (h (by simp [colon]))
        · simp [colon]
  exact groups_of_none left (none _ fun cs hc => ipv4_of_ends (hc.mono (by decide)))
    (none _ fun cs hc => number_of_ends _ _ hc)

/-! ## IPv6 addresses -/

/-- What may be behind an address: the end, or a character that no address goes on with. -/
structure Bounds (rest : List Char) : Prop extends Closes rest where
  colonless : rest.head? ≠ some ':'

theorem bounds_cons {c : Char} {cs : List Char} (h : digitValue? 16 c = none) (dotless : c ≠ '.')
    (colonless : c ≠ ':') : Bounds (c :: cs) :=
  ⟨closes_cons h dotless, by simpa using colonless⟩

theorem groups_bounds (left : Nat) (first : Bool) (h : Bounds rest) :
    groups left first rest = (([], false), rest) :=
  groups_end left first h.ends fun colon => absurd colon h.colonless

theorem mk_groups (ip : Ipv6Address) (h : ip.groups.toList.toArray.size = 8) :
    (⟨⟨ip.groups.toList.toArray, h⟩⟩ : Ipv6Address) = ip := by
  rcases ip with ⟨⟨⟨gs⟩, eight⟩⟩
  rfl

/-- Eight groups are read back. -/
theorem ipv6_joined (ip : Ipv6Address) (h : Bounds rest) :
    ipv6 (joined true ip.groups.toList ++ rest) = some (ip, rest) := by
  have eight : ip.groups.toList.length = 8 := Vector.length_toList
  have read := groups_joined (Nat.le_of_eq eight) true h.toCloses
  rw [eight, groups_bounds _ _ h, List.append_nil] at read
  rw [ipv6, read]
  exact (dif_pos (by simp)).trans (by rw [mk_groups])

/-- Groups are read back around a double colon, which stands for the zeros that are missing. -/
theorem ipv6_compressed (ip : Ipv6Address) {front back : List UInt16} {zeros : Nat}
    (h : ip.groups.toList = front ++ List.replicate (zeros + 1) 0 ++ back)
    {cs behind : List Char} {v4 : Bool}
    (h' : groups (8 - (front.length + 1)) true cs = ((back, v4), behind)) :
    ipv6 (joined true front ++ ':' :: ':' :: cs) = some (ip, behind) := by
  have eight : ip.groups.toList.length = 8 := Vector.length_toList
  have count := congrArg List.length h
  simp only [eight, List.length_append, List.length_replicate] at count
  have missing : 8 - front.length - back.length = zeros + 1 := by omega
  have read := groups_joined (by omega : front.length ≤ 8) true (closes_colon (':' :: cs))
  rw [groups_end _ _ (closes_colon _).ends fun _ => (closes_colon _).ends, List.append_nil] at read
  rw [ipv6, read]
  refine (dif_neg (by simp; omega)).trans ?_
  simp only [Bool.false_eq_true, if_false, char, if_pos, Option.bind_eq_bind, Option.bind_some, h',
    missing, ← h]
  exact (dif_pos (by simp)).trans (by rw [mk_groups])

/-- A run of zeros among groups: its place and its length. -/
def ZerosAt (gs : List UInt16) (run : Nat × Nat) : Prop :=
  ∃ front back, gs = front ++ List.replicate run.2 0 ++ back ∧ front.length = run.1

/-- What is found as a run of zeros is one. -/
theorem zerosAt_longestZeros {done gs : List UInt16} {run : Nat} {best : Nat × Nat}
    (trailing : ∃ before, done = before ++ List.replicate run 0) (h : ZerosAt (done ++ gs) best) :
    ZerosAt (done ++ gs) (Ipv6Address.longestZeros done.length run best gs) := by
  induction gs generalizing done run best with
  | nil => exact h
  | cons g gs ih =>
    have next : done ++ g :: gs = (done ++ [g]) ++ gs := by simp
    have place : done.length + 1 = (done ++ [g]).length := by simp
    obtain ⟨before, rfl⟩ := trailing
    rw [Ipv6Address.longestZeros, place]
    rw [next] at h ⊢
    split
    · rename_i zero
      have longer : before ++ List.replicate run 0 ++ [g] = before ++ List.replicate (run + 1) 0 := by
        rw [zero, List.replicate_succ', List.append_assoc]
      refine ih ⟨before, longer⟩ ?_
      split
      · exact ⟨before, gs, by rw [longer], by simp⟩
      · exact h
    · exact ih ⟨_, (List.append_nil _).symm⟩ h

/-- The groups of an address that stands for an IPv4 address. -/
theorem groups_of_mapped {ip : Ipv6Address} {ip4 : Ipv4Address} (h : ip.mapped? = some ip4) :
    ip.groups.toList = [0, 0, 0, 0, 0, 0xFFFF] ++ ip4.groups := by
  rw [Ipv6Address.mapped?] at h
  split at h
  · rename_i g g' groups
    have small := g.toNat_lt
    have small' := g'.toNat_lt
    obtain rfl := Option.some.inj h
    have high : UInt16.ofNat ((Ipv4Address.ofNat (g.toNat * 0x10000 + g'.toNat)).a.toNat * 256 +
        (Ipv4Address.ofNat (g.toNat * 0x10000 + g'.toNat)).b.toNat) = g := by
      apply UInt16.toNat_inj.1
      simp only [Ipv4Address.ofNat, UInt8.toNat_ofNat', UInt16.toNat_ofNat']
      omega
    have low : UInt16.ofNat ((Ipv4Address.ofNat (g.toNat * 0x10000 + g'.toNat)).c.toNat * 256 +
        (Ipv4Address.ofNat (g.toNat * 0x10000 + g'.toNat)).d.toNat) = g' := by
      apply UInt16.toNat_inj.1
      simp only [Ipv4Address.ofNat, UInt8.toNat_ofNat', UInt16.toNat_ofNat']
      omega
    rw [groups, Ipv4Address.groups, high, low]
    rfl
  · cases h

/-- An address is read back with a double colon for a run of zeros. -/
theorem ipv6_run (ip : Ipv6Address) {run : Nat × Nat} (zeros : ZerosAt ip.groups.toList run)
    (positive : 0 < run.2) (h : Bounds rest) :
    ipv6 ((Ipv6Address.groupsText (ip.groups.toList.take run.1) ++ "::" ++
      Ipv6Address.groupsText (ip.groups.toList.drop (run.1 + run.2))).toList ++ rest) =
      some (ip, rest) := by
  obtain ⟨front, back, groups_eq, place⟩ := zeros
  obtain ⟨fewer, more⟩ := Nat.exists_eq_succ_of_ne_zero (Nat.ne_of_gt positive)
  have eight : ip.groups.toList.length = 8 := Vector.length_toList
  have count := congrArg List.length groups_eq
  simp only [eight, List.length_append, List.length_replicate] at count
  have taken : ip.groups.toList.take run.1 = front := by
    rw [groups_eq, ← place, List.append_assoc, List.take_left]
  have dropped : ip.groups.toList.drop (run.1 + run.2) = back := by
    rw [groups_eq, ← place]
    exact List.drop_left' (by simp)
  have read := groups_joined (by omega : back.length ≤ 8 - (front.length + 1)) true h.toCloses
  rw [groups_bounds _ _ h, List.append_nil] at read
  have written : (Ipv6Address.groupsText front ++ "::" ++ Ipv6Address.groupsText back).toList ++
      rest = joined true front ++ ':' :: ':' :: (joined true back ++ rest) := by
    rw [String.toList_append, String.toList_append, toList_groupsText, toList_groupsText,
      List.append_assoc, List.append_assoc]
    rfl
  rw [taken, dropped, written]
  exact ipv6_compressed ip (more ▸ groups_eq) read

/-- An IPv6 address is read back from its text. Of a mapped address, the digits of `ffff` are read as a
group and the rest as an IPv4 address. -/
theorem ipv6_text (ip : Ipv6Address) (h : Bounds rest) :
    ipv6 (ip.text.toList ++ rest) = some (ip, rest) := by
  rw [Ipv6Address.text]
  split
  · rename_i ip4 mapped
    have written : ("::ffff:" ++ ip4.text).toList ++ rest =
        joined true [] ++ ':' :: ':' :: (joined true [0xFFFF] ++ ':' :: (ip4.text.toList ++ rest)) := by
      rw [String.toList_append]
      rfl
    have v4 : groups 6 false (':' :: (ip4.text.toList ++ rest)) = ((ip4.groups, true), rest) := by
      simp [groups, behindColon, char, ipv4_text ip4 h.decimal]
    have back := groups_joined (by decide : [(0xFFFF : UInt16)].length ≤ 7) true
      (closes_colon (ip4.text.toList ++ rest))
    simp only [List.length_singleton, List.isEmpty_cons, Bool.and_false, Nat.reduceSub, v4] at back
    have zeros : ip.groups.toList =
        [] ++ List.replicate (4 + 1) 0 ++ ([0xFFFF] ++ ip4.groups) := groups_of_mapped mapped
    rw [written]
    exact ipv6_compressed ip zeros back
  · dsimp only
    split
    · rename_i several
      have run : ZerosAt ([] ++ ip.groups.toList)
          (Ipv6Address.longestZeros [].length 0 (0, 0) ip.groups.toList) :=
        zerosAt_longestZeros ⟨[], rfl⟩ ⟨[], _, rfl, rfl⟩
      rw [List.nil_append, List.length_nil] at run
      generalize Ipv6Address.longestZeros 0 0 (0, 0) ip.groups.toList = best at run several ⊢
      exact ipv6_run ip run (by omega) h
    · rw [toList_groupsText]
      exact ipv6_joined ip h

end SharedVariables.Address
