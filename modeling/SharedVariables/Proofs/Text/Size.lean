import Mathlib.Algebra.GroupWithZero.Nat
import Mathlib.Algebra.Ring.Int.Defs
import Mathlib.Data.List.Forall2
import Mathlib.Data.String.Basic
import SharedVariables.Text.Grid
import SharedVariables.Text.Hex

/-!
# How long texts get

`Text.AtMost n k s` bounds a text by its characters, of which it has at most `n`, and by its bytes, of
which it has at most `k` more than characters. Texts of that kind are put together (`AtMost.append`),
and numbers in decimal are such texts with `k = 0` (`AtMost.nat`, `AtMost.int`). A grid whose cells
are bounded column by column is bounded as a whole (`Grid.linesSize_lines_le`).
-/

namespace SharedVariables.Text

open String (utf8Len)

/-- A text has at most `n` characters, and at most `k` bytes more than it has characters. -/
structure AtMost (n k : Nat) (s : String) : Prop where
  length : s.length ≤ n
  bytes : s.utf8ByteSize ≤ s.length + k

instance (n k : Nat) (s : String) : Decidable (AtMost n k s) :=
  decidable_of_iff (s.length ≤ n ∧ s.utf8ByteSize ≤ s.length + k)
    ⟨fun h => ⟨h.1, h.2⟩, fun h => ⟨h.length, h.bytes⟩⟩

theorem utf8Len_le (cs : List Char) : utf8Len cs ≤ 4 * cs.length := by
  induction cs with
  | nil => simp
  | cons c cs ih =>
    have := c.utf8Size_le_four
    simp only [String.utf8Len_cons, List.length_cons]
    omega

theorem utf8Len_of_ascii {cs : List Char} (h : ∀ c ∈ cs, c.utf8Size = 1) :
    utf8Len cs = cs.length := by
  induction cs with
  | nil => rfl
  | cons c cs ih =>
    rw [String.utf8Len_cons, h c List.mem_cons_self, List.length_cons,
      ih fun d hd => h d (List.mem_cons_of_mem c hd)]

theorem utf8Len_replicate (n : Nat) (c : Char) : utf8Len (List.replicate n c) = n * c.utf8Size := by
  induction n with
  | zero => simp
  | succ n ih => rw [List.replicate_succ, String.utf8Len_cons, ih, Nat.succ_mul]

theorem utf8ByteSize_eq (s : String) : s.utf8ByteSize = utf8Len s.toList := by
  rw [← String.utf8ByteSize_ofList, String.ofList_toList]

namespace AtMost

variable {n n' k k' : Nat} {s t : String}

theorem mono (h : AtMost n k s) (hn : n ≤ n') (hk : k ≤ k') : AtMost n' k' s :=
  ⟨Nat.le_trans h.length hn, Nat.le_trans h.bytes (Nat.add_le_add_left hk _)⟩

theorem append (h : AtMost n k s) (h' : AtMost n' k' t) : AtMost (n + n') (k + k') (s ++ t) := by
  have := h.length
  have := h.bytes
  have := h'.length
  have := h'.bytes
  constructor
  · rw [String.length_append]
    omega
  · rw [String.utf8ByteSize_append, String.length_append]
    omega

/-- No character has more than four bytes. -/
theorem of_length (h : s.length ≤ n) : AtMost n (3 * n) s := by
  have := utf8Len_le s.toList
  refine ⟨h, ?_⟩
  rw [utf8ByteSize_eq]
  rw [String.length_toList] at this
  omega

theorem utf8Size_of_isDigit {c : Char} (h : c.isDigit = true) : c.utf8Size = 1 := by
  simp only [Char.isDigit, Bool.and_eq_true, decide_eq_true_eq] at h
  exact Char.utf8Size_eq_one_iff.2 (UInt32.le_trans h.2 (by decide))

/-- A number in decimal. -/
theorem nat {m : Nat} (hn : 0 < n) (h : m < 10 ^ n) : AtMost n 0 (toString m) := by
  refine ⟨(Nat.length_repr_le_iff hn).2 h, ?_⟩
  rw [utf8ByteSize_eq, Nat.toString_eq_repr, Nat.toList_repr, ← String.length_toList,
    Nat.toList_repr, utf8Len_of_ascii fun c hc =>
      utf8Size_of_isDigit (Nat.isDigit_of_mem_toDigits (by decide) (by decide) hc)]
  exact Nat.le_refl _

theorem int {m : Int} (hn : 0 < n) (hl : -10 ^ n < m) (hh : m < 10 ^ n) :
    AtMost (n + 1) 0 (toString m) := by
  rw [Int.toString_eq_repr, Int.repr_eq_if]
  split
  · rename_i hm
    have small : m.toNat < 10 ^ n := by
      have : (m.toNat : Int) < 10 ^ n := by rw [Int.toNat_of_nonneg hm]; exact hh
      exact_mod_cast this
    exact (nat hn small).mono (Nat.le_succ n) (Nat.le_refl 0)
  · rename_i hm
    have small : (-m).toNat < 10 ^ n := by
      have : ((-m).toNat : Int) < 10 ^ n := by
        rw [Int.toNat_of_nonneg (by omega)]
        omega
      exact_mod_cast this
    have minus : AtMost 1 0 "-" := ⟨by decide, by decide⟩
    exact (minus.append (nat hn small)).mono (by omega) (Nat.le_refl 0)

theorem zeroPad_length {w : Nat} {cs : List Char} (hw : w ≤ n) (h : cs.length ≤ n) :
    (zeroPad w cs).length ≤ n := by
  rw [zeroPad, List.length_append, List.length_replicate]
  omega

/-- A number in hexadecimal. -/
theorem hexUpper {w m : Nat} (hw : w ≤ n) (hn : 0 < n) (h : m < 16 ^ n) :
    AtMost n (3 * n) (hexUpper w m) := by
  refine of_length ?_
  rw [Text.hexUpper, String.length_ofList]
  refine zeroPad_length hw ?_
  rw [List.length_map]
  exact (Nat.length_toDigits_le_iff (by decide) hn).2 h

end AtMost

/-- Texts with something between them. -/
theorem length_intercalate_le (s : String) (parts : List String) :
    (s.intercalate parts).length ≤ (parts.map fun p => p.length + s.length).sum := by
  induction parts with
  | nil => simp
  | cons p parts ih =>
    cases parts with
    | nil => simp
    | cons q parts =>
      rw [String.intercalate_cons_cons, String.length_append, String.length_append, List.map_cons,
        List.sum_cons]
      omega

/-! ## Grids -/

namespace Grid

/-- What a column allows of its cells: so many characters, and so many more bytes. -/
abbrev Bounds := List (Nat × Nat)

/-- Every cell of a line keeps to the bounds of its column. -/
def Keeps (bounds : Bounds) (cells : List String) : Prop :=
  List.Forall₂ (fun bound cell => AtMost bound.1 bound.2 cell) bounds cells

instance (bounds : Bounds) (cells : List String) : Decidable (Keeps bounds cells) :=
  inferInstanceAs (Decidable (List.Forall₂ ..))

/-- The widths of columns keep to their bounds. -/
def Narrow (bounds : Bounds) (widths : List Nat) : Prop :=
  List.Forall₂ (fun bound width => width ≤ bound.1) bounds widths

/-- The most bytes of a line, and of a rule. -/
def lineSize (bounds : Bounds) : Nat := 3 + (bounds.map fun b => 5 + b.1 + b.2).sum

def ruleSize (bounds : Bounds) : Nat := 6 + (bounds.map fun b => 3 * b.1 + 9).sum

theorem Narrow.max {bounds : Bounds} {widths : List Nat} {cells : List String}
    (hw : Narrow bounds widths) (hc : Keeps bounds cells) :
    Narrow bounds (List.zipWith Max.max widths (cells.map String.length)) := by
  induction hw generalizing cells with
  | nil =>
    cases hc
    exact .nil
  | cons h _ ih =>
    cases hc with
    | cons hcell hcells => exact .cons (Nat.max_le.2 ⟨h, hcell.length⟩) (ih hcells)

theorem narrow_zero {bounds : Bounds} {cells : List String} (h : Keeps bounds cells) :
    Narrow bounds (cells.map fun _ => 0) := by
  induction h with
  | nil => exact .nil
  | cons _ _ ih => exact .cons (Nat.zero_le _) ih

/-- No column gets wider than its cells may be. -/
theorem narrow_widths {g : Grid} {bounds : Bounds} {first : List String} {rest : List (List String)}
    (hg : g.header = first :: rest) (h : ∀ cells ∈ g.header ++ g.body, Keeps bounds cells) :
    Narrow bounds g.widths := by
  have start : Narrow bounds ((g.header.headD []).map fun _ => 0) := by
    rw [hg, List.headD_cons]
    exact narrow_zero (h first (by simp [hg]))
  rw [widths]
  generalize (g.header.headD []).map (fun _ => 0) = widths at start
  generalize g.header ++ g.body = lines at h
  induction lines generalizing widths with
  | nil => exact start
  | cons cells lines ih =>
    exact ih _ (start.max (h cells List.mem_cons_self)) fun cells' h' =>
      h cells' (List.mem_cons_of_mem cells h')

theorem utf8Len_cell_le {n k width : Nat} {text : String} (h : AtMost n k text) (hw : width ≤ n) :
    utf8Len (cell text width) ≤ 5 + n + k := by
  have hbytes := h.bytes
  have hlength := h.length
  rw [utf8ByteSize_eq] at hbytes
  have space : Char.utf8Size ' ' = 1 := by decide
  have bar : Char.utf8Size '│' = 3 := by decide
  simp only [cell, String.utf8Len_cons, String.utf8Len_append, utf8Len_replicate, String.utf8Len_nil,
    space, bar]
  omega

theorem utf8Len_line_le {bounds : Bounds} {widths : List Nat} {cells : List String}
    (hw : Narrow bounds widths) (hc : Keeps bounds cells) :
    utf8Len (line widths cells) ≤ lineSize bounds := by
  have bar : Char.utf8Size '│' = 3 := by decide
  rw [line, String.utf8Len_cons, bar, lineSize]
  suffices utf8Len (List.zipWith cell cells widths).flatten ≤
      (bounds.map fun b => 5 + b.1 + b.2).sum by omega
  induction hw generalizing cells with
  | nil =>
    cases hc
    simp
  | cons h _ ih =>
    cases hc with
    | cons hcell hcells =>
      have := utf8Len_cell_le hcell h
      have := ih hcells
      simp only [List.zipWith_cons_cons, List.flatten_cons, String.utf8Len_append, List.map_cons,
        List.sum_cons]
      omega

theorem utf8Len_rule_le {bounds : Bounds} {widths : List Nat} (hw : Narrow bounds widths)
    (left middle right : Char) (hl : left.utf8Size ≤ 3) (hm : middle.utf8Size ≤ 3)
    (hr : right.utf8Size ≤ 3) : utf8Len (rule left middle right widths) ≤ ruleSize bounds := by
  have dash : Char.utf8Size '─' = 3 := by decide
  simp only [rule, String.utf8Len_cons, String.utf8Len_append, String.utf8Len_nil, ruleSize]
  suffices utf8Len (List.intersperse [middle]
      (widths.map fun w => List.replicate (w + 2) '─')).flatten ≤
      (bounds.map fun b => 3 * b.1 + 9).sum by omega
  induction hw with
  | nil => simp
  | cons h rest ih =>
    cases rest with
    | nil =>
      simp only [List.map_cons, List.map_nil, List.intersperse_singleton, List.flatten_cons,
        List.flatten_nil, List.append_nil, utf8Len_replicate, dash, List.sum_cons, List.sum_nil]
      omega
    | cons h' rest' =>
      simp only [List.map_cons, List.intersperse_cons_cons, List.flatten_cons,
        String.utf8Len_append, utf8Len_replicate, dash, String.utf8Len_cons, String.utf8Len_nil,
        List.sum_cons] at ih ⊢
      omega

end Grid

/-! ## Lines -/

/-- The bytes of lines, each ended by a newline. -/
def linesSize (lines : List (List Char)) : Nat := (lines.map fun line => utf8Len line + 1).sum

theorem utf8ByteSize_unlines (lines : List (List Char)) :
    (unlines lines).utf8ByteSize = linesSize lines := by
  have newline : Char.utf8Size '\n' = 1 := by decide
  rw [unlines, String.utf8ByteSize_ofList]
  induction lines with
  | nil => rfl
  | cons line lines ih =>
    rw [List.flatMap_cons, String.utf8Len_append, String.utf8Len_append, ih, String.utf8Len_cons,
      newline]
    simp [linesSize]

theorem linesSize_cons (line : List Char) (lines : List (List Char)) :
    linesSize (line :: lines) = utf8Len line + 1 + linesSize lines := by
  simp [linesSize]

theorem linesSize_append (lines lines' : List (List Char)) :
    linesSize (lines ++ lines') = linesSize lines + linesSize lines' := by
  simp [linesSize]

namespace Grid

theorem linesSize_map_le {bounds : Bounds} {widths : List Nat} (hw : Narrow bounds widths)
    {lines : List (List String)} (h : ∀ cells ∈ lines, Keeps bounds cells) :
    linesSize (lines.map (line widths)) ≤ lines.length * (lineSize bounds + 1) := by
  induction lines with
  | nil => simp [linesSize]
  | cons cells lines ih =>
    have := utf8Len_line_le hw (h cells List.mem_cons_self)
    have := ih fun cells' h' => h cells' (List.mem_cons_of_mem cells h')
    rw [List.map_cons, linesSize_cons, List.length_cons, Nat.succ_mul]
    omega

/-- A grid has three rules, and a line for each line of cells. -/
theorem linesSize_lines_le {g : Grid} {bounds : Bounds} {first : List String}
    {rest : List (List String)} (hg : g.header = first :: rest)
    (h : ∀ cells ∈ g.header ++ g.body, Keeps bounds cells) :
    linesSize g.lines ≤ 3 * (ruleSize bounds + 1) +
      (g.header.length + g.body.length) * (lineSize bounds + 1) := by
  have hw := narrow_widths hg h
  have top := utf8Len_rule_le hw '┌' '┬' '┐' (by decide) (by decide) (by decide)
  have inner := utf8Len_rule_le hw '├' '┼' '┤' (by decide) (by decide) (by decide)
  have bottom := utf8Len_rule_le hw '└' '┴' '┘' (by decide) (by decide) (by decide)
  have header := linesSize_map_le hw fun cells hc => h cells (List.mem_append_left _ hc)
  have body := linesSize_map_le hw fun cells hc => h cells (List.mem_append_right _ hc)
  simp only [lines, linesSize_append, linesSize_cons, Nat.add_mul]
  simp only [linesSize, List.map_nil, List.sum_nil] at *
  omega

end Grid

end SharedVariables.Text
