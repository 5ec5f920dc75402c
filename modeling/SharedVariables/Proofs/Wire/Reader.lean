import SharedVariables.Wire.Field

/-!
# What a reader takes for a value

`Reader.Reads r bs a` says that `bs` are the bytes from which `r` reads `a`: whatever follows them, it
takes them and no more; and if only a beginning of them is there, it reports missing bytes. So the
bytes of different values never run into each other, and the property passes from the parts of a
message to the whole (`Reads.bind`, `Reads.replicate`).
-/

namespace SharedVariables.Wire

/-- The number that some bytes spell is below the power for as many bytes. -/
theorem ofBigEndian_lt (bs : Bytes) : ofBigEndian bs < Nat.pow 256 bs.length := by
  have fold (n : Nat) :
      bs.foldl (fun n b => n * 256 + b.toNat) n < (n + 1) * Nat.pow 256 bs.length := by
    induction bs generalizing n with
    | nil => simp
    | cons b bs ih =>
      have := b.toNat_lt
      calc (b :: bs).foldl (fun n b => n * 256 + b.toNat) n
        _ < (n * 256 + b.toNat + 1) * Nat.pow 256 bs.length := ih _
        _ ≤ (n + 1) * 256 * Nat.pow 256 bs.length := Nat.mul_le_mul_right _ (by omega)
        _ = (n + 1) * Nat.pow 256 (b :: bs).length := by
          rw [List.length_cons, Nat.mul_assoc, Nat.mul_comm 256]
          rfl
  have := fold 0
  rwa [Nat.zero_add, Nat.one_mul] at this

namespace Reader

variable {α β : Type}

/-! ## Bytes off the front -/

theorem splitAt?_length (bs taken rest : Bytes) :
    splitAt? bs.length taken (bs ++ rest) = some (taken.reverse ++ bs, rest) := by
  induction bs generalizing taken with
  | nil => simp [splitAt?]
  | cons b bs ih => simpa [splitAt?] using ih (b :: taken)

theorem splitAt?_of_lt {n : Nat} {bs : Bytes} (h : bs.length < n) (taken : Bytes) :
    splitAt? n taken bs = none := by
  induction bs generalizing n taken with
  | nil =>
    cases n with
    | zero => simp at h
    | succ n => rfl
  | cons b bs ih =>
    cases n with
    | zero => simp at h
    | succ n => exact ih (Nat.lt_of_succ_lt_succ h) (b :: taken)

theorem bind_of_ok {r : Reader α} {f : α → Reader β} {bs rest : Bytes} {a : α}
    (h : r bs = (.ok a, rest)) : (r >>= f) bs = f a rest := by
  change Reader.bind r f bs = f a rest
  rw [Reader.bind, h]

theorem bind_of_error {r : Reader α} {f : α → Reader β} {bs rest : Bytes} {e : Error}
    (h : r bs = (.error e, rest)) : (r >>= f) bs = (.error e, rest) := by
  change Reader.bind r f bs = (.error e, rest)
  rw [Reader.bind, h]

/-! ## The bytes of a value -/

/-- `bs` are the bytes from which `r` reads `a`. -/
structure Reads (r : Reader α) (bs : Bytes) (a : α) : Prop where
  whole : ∀ rest, r (bs ++ rest) = (.ok a, rest)
  /-- A beginning of the bytes is too short. -/
  cut : ∀ p, p <+: bs → p ≠ bs → ∃ needed available left,
    r p = (.error (.truncated needed available), left)

namespace Reads

variable {r : Reader α} {f : α → Reader β} {bs cs : Bytes} {a : α} {b : β}

theorem result_eq (h : Reads r bs a) (rest : Bytes) : r.result (bs ++ rest) = .ok a := by
  rw [result, h.whole]

protected theorem pure (a : α) : Reads (pure a) [] a where
  whole _ := rfl
  cut _ hp hne := absurd (List.prefix_nil.1 hp) hne

/-- What two readers take one after the other. A beginning of it ends within the first part, or it holds
that and a beginning of the second. -/
protected theorem bind (h : Reads r bs a) (hf : Reads (f a) cs b) : Reads (r >>= f) (bs ++ cs) b where
  whole rest := by rw [List.append_assoc, bind_of_ok (h.whole _), hf.whole]
  cut p hp hne := by
    by_cases hbs : bs <+: p
    · obtain ⟨q, rfl⟩ := hbs
      have hq : q <+: cs := (List.prefix_append_right_inj bs).1 hp
      obtain ⟨needed, available, left, hleft⟩ := hf.cut q hq fun heq => hne (by rw [heq])
      exact ⟨needed, available, left, by rw [bind_of_ok (h.whole q), hleft]⟩
    · have hp : p <+: bs :=
        (List.prefix_or_prefix_of_prefix hp (List.prefix_append bs cs)).resolve_right hbs
      obtain ⟨needed, available, left, hleft⟩ := h.cut p hp fun heq => hbs (heq ▸ List.prefix_rfl)
      exact ⟨needed, available, left, bind_of_error hleft⟩

/-- A value made of what was read. -/
protected theorem map (h : Reads r bs a) (g : α → β) :
    Reads (do return g (← r)) bs (g a) := by
  have := h.bind (f := fun a => pure (g a)) (Reads.pure (g a))
  rwa [List.append_nil] at this

protected theorem take (bs : Bytes) : Reads (take bs.length) bs bs where
  whole rest := by rw [take, splitAt?_length]; rfl
  cut p hp hne := by
    have hlt : p.length < bs.length :=
      Nat.lt_of_le_of_ne hp.length_le fun h => hne (hp.eq_of_length h)
    exact ⟨bs.length, p.length, p, by rw [take, splitAt?_of_lt hlt]⟩

/-- A number in its own width. -/
protected theorem unsigned {k n : Nat} (h : n < Nat.pow 256 k) :
    Reads (unsigned k) (bigEndian k n) n := by
  have := (Reads.take (bigEndian k n)).map ofBigEndian
  rwa [length_bigEndian, ofBigEndian_bigEndian, Nat.mod_eq_of_lt h] at this

/-- A byte string behind its length. -/
protected theorem string (h : bs.length ≤ maxStringLength) :
    Reads string (bigEndian 2 bs.length ++ bs) bs :=
  (Reads.unsigned (Nat.lt_succ_of_le h)).bind (Reads.take bs)

/-- The values of a list one after the other, each from its own bytes. -/
protected theorem replicate {bytes : α → Bytes} {as : List α}
    (h : ∀ a ∈ as, Reads r (bytes a) a) : Reads (replicate as.length r) (as.flatMap bytes) as := by
  suffices go : ∀ read : List α,
      Reads (replicateAfter r as.length read) (as.flatMap bytes) (read.reverse ++ as) from go []
  induction as with
  | nil =>
    intro read
    rw [List.append_nil]
    exact Reads.pure read.reverse
  | cons a as ih =>
    intro read
    have rest := ih (fun b hb => h b (List.mem_cons_of_mem _ hb)) (a :: read)
    rw [List.reverse_cons, List.append_assoc] at rest
    exact (h a List.mem_cons_self).bind rest

end Reads

/-! ## What has been read -/

variable {r : Reader α} {f : α → Reader β} {bs rest : Bytes} {b : β}

/-- What is read with one reader and then with another. -/
theorem exists_of_bind (h : (r >>= f) bs = (.ok b, rest)) :
    ∃ a middle, r bs = (.ok a, middle) ∧ f a middle = (.ok b, rest) := by
  cases hr : r bs with
  | mk result middle =>
    cases result with
    | error e =>
      rw [bind_of_error hr] at h
      cases h
    | ok a =>
      rw [bind_of_ok hr] at h
      exact ⟨a, middle, rfl, h⟩

theorem length_of_splitAt? {n : Nat} {taken front : Bytes}
    (h : splitAt? n taken bs = some (front, rest)) : front.length = taken.length + n := by
  induction n generalizing taken bs with
  | zero =>
    cases h
    simp
  | succ n ih =>
    cases bs with
    | nil => cases h
    | cons b bs =>
      rw [ih h, List.length_cons]
      omega

theorem length_of_take {n : Nat} {front : Bytes} (h : take n bs = (.ok front, rest)) :
    front.length = n := by
  rw [take] at h
  split at h
  · rename_i hs
    cases h
    simpa using length_of_splitAt? hs
  · cases h

end Reader

end SharedVariables.Wire
