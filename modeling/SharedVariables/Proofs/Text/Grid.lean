import Mathlib.Algebra.GroupWithZero.Nat
import Mathlib.Algebra.Ring.Int.Defs
import Mathlib.Data.List.Forall2
import SharedVariables.Text.Grid

/-!
# Lines of a table

`Grid.IsDrawnBy` says what it is for lines to draw a table: three rules, a line for each line of cells,
and the same number of characters in all of them. The lines of a grid do, whatever is in its cells, if
there are as many cells in each line (`isDrawnBy_lines`); for no cell is longer than its column is wide
(`covers_widths`). They are what a text splits into at its newlines just if no cell has a newline.
-/

namespace SharedVariables.Text

/-! ## Splitting at newlines -/

/-- Lines without newlines come back when their text is split at the newlines. -/
theorem splitOn_unlines {lines : List (List Char)} (h : ∀ line ∈ lines, '\n' ∉ line) :
    (unlines lines).toList.splitOn '\n' = lines ++ [[]] := by
  rw [unlines, String.toList_ofList]
  induction lines with
  | nil => rfl
  | cons line lines ih =>
    obtain ⟨first, others⟩ := List.forall_mem_cons.1 h
    rw [List.flatMap_cons, List.append_assoc, List.singleton_append,
      List.splitOn_append_cons_self_of_not_mem first, ih others, List.cons_append]

theorem length_splitOn_pos (cs : List Char) (c : Char) : 0 < (cs.splitOn c).length :=
  List.length_pos_iff.2 (List.splitOn_ne_nil c cs)

/-- A list that is split nowhere has nowhere to be split. -/
theorem notMem_of_length_splitOn {cs : List Char} {c : Char} (h : (cs.splitOn c).length ≤ 1) :
    c ∉ cs := by
  intro hc
  obtain ⟨before, after, rfl⟩ := List.append_of_mem hc
  have := length_splitOn_pos before c
  have := length_splitOn_pos after c
  rw [List.splitOn_append_cons_self, List.length_append] at h
  omega

/-- A text of lines is split after each of them, and so nowhere else if there are no more pieces. -/
theorem length_splitOn_unlines (lines : List (List Char)) :
    lines.length < ((unlines lines).toList.splitOn '\n').length ∧
      (((unlines lines).toList.splitOn '\n').length ≤ lines.length + 1 →
        ∀ line ∈ lines, '\n' ∉ line) := by
  rw [unlines, String.toList_ofList]
  induction lines with
  | nil => exact ⟨length_splitOn_pos [] _, fun _ => nofun⟩
  | cons line lines ih =>
    rw [List.flatMap_cons, List.append_assoc, List.singleton_append, List.splitOn_append_cons_self,
      List.length_append, List.length_cons, List.forall_mem_cons]
    have pieces := length_splitOn_pos line '\n'
    refine ⟨by omega, fun few => ⟨notMem_of_length_splitOn (by omega), ih.2 (by omega)⟩⟩

namespace Grid

/-! ## Widths -/

/-- No cell of a line is longer than its column is wide. -/
def Covers (widths : List Nat) (cells : List String) : Prop :=
  List.Forall₂ (fun (cell : String) width => cell.length ≤ width) cells widths

theorem Covers.mono {widths widths' : List Nat} {cells : List String} (h : Covers widths cells)
    (wider : List.Forall₂ (· ≤ ·) widths widths') : Covers widths' cells := by
  induction h generalizing widths' with
  | nil =>
    cases wider
    exact .nil
  | cons fits _ ih =>
    cases wider with
    | cons le wider => exact .cons (Nat.le_trans fits le) (ih wider)

theorem wider_trans {ws ws' ws'' : List Nat} (h : List.Forall₂ (· ≤ ·) ws ws')
    (h' : List.Forall₂ (· ≤ ·) ws' ws'') : List.Forall₂ (· ≤ ·) ws ws'' := by
  induction h generalizing ws'' with
  | nil => exact h'
  | cons le _ ih =>
    cases h' with
    | cons le' wider => exact .cons (Nat.le_trans le le') (ih wider)

/-- The widths of columns after one more line of cells. -/
def widen (widths : List Nat) (cells : List String) : List Nat :=
  List.zipWith max widths (cells.map String.length)

/-- Columns are made wide enough for one more line, and none is made narrower. -/
theorem covers_widen {widths : List Nat} {cells : List String} (h : cells.length = widths.length) :
    Covers (widen widths cells) cells ∧ List.Forall₂ (· ≤ ·) widths (widen widths cells) := by
  induction cells generalizing widths with
  | nil =>
    obtain rfl := List.eq_nil_of_length_eq_zero h.symm
    exact ⟨.nil, .nil⟩
  | cons cell cells ih =>
    cases widths with
    | nil => cases h
    | cons width widths =>
      obtain ⟨covers, wider⟩ := ih (Nat.succ.inj h)
      exact ⟨.cons (Nat.le_max_right ..) covers, .cons (Nat.le_max_left ..) wider⟩

/-- A line that is covered stays so, since no column gets narrower. -/
theorem covers_foldl {lines : List (List String)} {widths : List Nat}
    (h : ∀ cells ∈ lines, cells.length = widths.length) :
    (∀ cells ∈ lines, Covers (lines.foldl widen widths) cells) ∧
      List.Forall₂ (· ≤ ·) widths (lines.foldl widen widths) := by
  induction lines generalizing widths with
  | nil => exact ⟨nofun, List.forall₂_same.2 fun _ _ => Nat.le_refl _⟩
  | cons cells lines ih =>
    obtain ⟨first, others⟩ := List.forall_mem_cons.1 h
    obtain ⟨covers, wider⟩ := covers_widen first
    obtain ⟨covered, widest⟩ := ih fun cells' h' => (others cells' h').trans wider.length_eq
    exact ⟨List.forall_mem_cons.2 ⟨covers.mono widest, covered⟩, wider_trans wider widest⟩

/-- A table with headers and with as many cells in each line. -/
structure Regular (g : Grid) (columns : Nat) : Prop where
  header : g.header ≠ []
  cells : ∀ cells ∈ g.header ++ g.body, cells.length = columns

theorem covers_widths {g : Grid} {columns : Nat} (h : g.Regular columns) :
    (∀ cells ∈ g.header ++ g.body, Covers g.widths cells) ∧ g.widths.length = columns := by
  have start : ((g.header.headD []).map fun _ => 0).length = columns := by
    obtain ⟨first, rest, header⟩ := List.exists_cons_of_ne_nil h.header
    rw [List.length_map, header, List.headD_cons]
    exact h.cells first (List.mem_append_left _ (header ▸ List.mem_cons_self))
  obtain ⟨covers, wider⟩ := covers_foldl fun cells hc => (h.cells cells hc).trans start.symm
  exact ⟨covers, wider.length_eq.symm.trans start⟩

/-! ## Lengths -/

/-- How many characters there are in a line that is drawn in columns. -/
def lineLength (widths : List Nat) : Nat := 1 + (widths.map (· + 3)).sum

theorem length_line {widths : List Nat} {cells : List String} (h : Covers widths cells) :
    (line widths cells).length = lineLength widths := by
  rw [line, List.length_cons, lineLength, Nat.add_comm]
  congr 1
  induction h with
  | nil => rfl
  | @cons text width _ _ fits _ ih =>
    have one : (cell text width).length = width + 3 := by
      simp only [cell, List.length_cons, List.length_append, String.length_toList,
        List.length_replicate, List.length_nil]
      omega
    rw [List.zipWith_cons_cons, List.flatten_cons, List.length_append, ih, one, List.map_cons,
      List.sum_cons]

theorem length_rule (left middle right : Char) {widths : List Nat} (h : widths ≠ []) :
    (rule left middle right widths).length = lineLength widths := by
  rw [rule, lineLength, List.length_cons, List.length_append, List.length_singleton]
  suffices (List.intersperse [middle]
      (widths.map fun w => List.replicate (w + 2) '─')).flatten.length + 1 =
      (widths.map (· + 3)).sum by omega
  induction widths with
  | nil => exact absurd rfl h
  | cons width widths ih =>
    cases widths with
    | nil => simp
    | cons width' widths =>
      have := ih (List.cons_ne_nil _ _)
      simp only [List.map_cons, List.intersperse_cons_cons, List.flatten_cons, List.length_append,
        List.length_replicate, List.length_singleton, List.sum_cons] at this ⊢
      omega

/-! ## What the lines show -/

/-- A line shows cells in columns of some widths: between bars stands each cell, filled up with
spaces, and a space on either side. -/
inductive Shows : List Nat → List String → List Char → Prop where
  | nil : Shows [] [] ['│']
  | cons {text : String} {width fill : Nat} {widths : List Nat} {cells : List String}
      {line : List Char} (fits : text.length + fill = width) (rest : Shows widths cells line) :
      Shows (width :: widths) (text :: cells)
        ('│' :: ' ' :: (text.toList ++ List.replicate fill ' ' ++ ' ' :: line))

/-- A line is a rule: dashes and crossings between the two ends. -/
def IsRule (left middle right : Char) (line : List Char) : Prop :=
  ∃ inside, line = left :: (inside ++ [right]) ∧ ∀ c ∈ inside, c = '─' ∨ c = middle

/-- Lines draw a table: there are three rules, and each line of cells is shown by one line between
them; the columns are equally wide in all of them, and so are the lines. -/
def IsDrawnBy (g : Grid) (lines : List (List Char)) : Prop :=
  ∃ widths top heads between rows bottom,
    lines = top :: (heads ++ between :: (rows ++ [bottom])) ∧
    (IsRule '┌' '┬' '┐' top ∧ IsRule '├' '┼' '┤' between ∧ IsRule '└' '┴' '┘' bottom) ∧
    List.Forall₂ (Shows widths) g.header heads ∧ List.Forall₂ (Shows widths) g.body rows ∧
    ∃ width, ∀ line ∈ lines, line.length = width

theorem shows_line {widths : List Nat} {cells : List String} (h : Covers widths cells) :
    Shows widths cells (line widths cells) := by
  induction h with
  | nil => exact .nil
  | @cons text width cells widths fits _ ih =>
    have next : line (width :: widths) (text :: cells) =
        '│' :: ' ' :: (text.toList ++ List.replicate (width - text.length) ' ' ++
          ' ' :: line widths cells) := by
      simp only [line, cell, List.zipWith_cons_cons, List.flatten_cons, List.cons_append,
        List.append_assoc, List.nil_append]
    exact next ▸ .cons (by omega) ih

theorem isRule_rule (left middle right : Char) (widths : List Nat) :
    IsRule left middle right (rule left middle right widths) := by
  refine ⟨_, rfl, ?_⟩
  induction widths with
  | nil => exact nofun
  | cons width widths ih =>
    cases widths with
    | nil => simp [List.mem_replicate]
    | cons width' widths =>
      simp only [List.map_cons, List.intersperse_cons_cons, List.flatten_cons, List.mem_append,
        List.mem_replicate, List.mem_singleton] at ih ⊢
      rintro c (⟨-, rfl⟩ | rfl | hc)
      · exact .inl rfl
      · exact .inr rfl
      · exact ih c hc

/-- The lines of a table draw it. -/
theorem isDrawnBy_lines {g : Grid} {columns : Nat} (h : g.Regular (columns + 1)) :
    g.IsDrawnBy g.lines := by
  obtain ⟨covers, many⟩ := covers_widths h
  have some_column : g.widths ≠ [] := fun none => by simp [none] at many
  have shown (cellss : List (List String)) (part : ∀ cells ∈ cellss, Covers g.widths cells) :
      List.Forall₂ (Shows g.widths) cellss (cellss.map (line g.widths)) :=
    List.forall₂_map_right_iff.2 (List.forall₂_same.2 fun cells hc => shows_line (part cells hc))
  have cut : g.lines = rule '┌' '┬' '┐' g.widths :: (g.header.map (line g.widths) ++
      rule '├' '┼' '┤' g.widths :: (g.body.map (line g.widths) ++ [rule '└' '┴' '┘' g.widths])) := by
    simp only [lines, List.append_assoc, List.cons_append, List.nil_append]
  refine ⟨g.widths, _, _, _, _, _, cut, ⟨isRule_rule .., isRule_rule .., isRule_rule ..⟩,
    shown _ fun cells hc => covers cells (List.mem_append_left _ hc),
    shown _ fun cells hc => covers cells (List.mem_append_right _ hc),
    lineLength g.widths, fun line hl => ?_⟩
  simp only [cut, List.mem_append, List.mem_cons, List.not_mem_nil, or_false, List.mem_map] at hl
  rcases hl with rfl | ⟨cells, hc, rfl⟩ | rfl | ⟨cells, hc, rfl⟩ | rfl
  · exact length_rule _ _ _ some_column
  · exact length_line (covers cells (List.mem_append_left _ hc))
  · exact length_rule _ _ _ some_column
  · exact length_line (covers cells (List.mem_append_right _ hc))
  · exact length_rule _ _ _ some_column

/-! ## Newlines in a drawn table -/

theorem Shows.newline_iff {widths : List Nat} {cells : List String} {line : List Char}
    (h : Shows widths cells line) : '\n' ∈ line ↔ ∃ cell ∈ cells, '\n' ∈ cell.toList := by
  induction h with
  | nil => simp
  | cons _ _ ih => simp [ih, List.mem_replicate]

theorem IsRule.newline_notMem {left middle right : Char} {line : List Char}
    (h : IsRule left middle right line) (ends : '\n' ∉ [left, middle, right]) : '\n' ∉ line := by
  obtain ⟨inside, rfl, drawn⟩ := h
  simp only [List.mem_cons, List.not_mem_nil, or_false, not_or] at ends
  simp only [List.mem_cons, List.mem_append, List.not_mem_nil, or_false, not_or]
  exact ⟨ends.1, fun newline => (drawn _ newline).elim (by decide) ends.2.1, ends.2.2⟩

/-- How many lines draw a table. -/
theorem IsDrawnBy.length_eq {g : Grid} {lines : List (List Char)} (h : g.IsDrawnBy lines) :
    lines.length = 3 + g.header.length + g.body.length := by
  obtain ⟨widths, top, heads, between, rows, bottom, rfl, -, heads', rows', -⟩ := h
  simp only [List.length_cons, List.length_append, List.length_nil, heads'.length_eq,
    rows'.length_eq]
  omega

/-- The lines that draw a table have a newline only where a cell has. -/
theorem IsDrawnBy.newline_iff {g : Grid} {lines : List (List Char)} (h : g.IsDrawnBy lines) :
    (∃ line ∈ lines, '\n' ∈ line) ↔
      ∃ cells ∈ g.header ++ g.body, ∃ cell ∈ cells, '\n' ∈ cell.toList := by
  obtain ⟨widths, top, heads, between, rows, bottom, rfl, ⟨ruled, ruled', ruled''⟩, heads', rows', -⟩
    := h
  have shown {cellss : List (List String)} {lines : List (List Char)}
      (h : List.Forall₂ (Shows widths) cellss lines) :
      (∃ line ∈ lines, '\n' ∈ line) ↔ ∃ cells ∈ cellss, ∃ cell ∈ cells, '\n' ∈ cell.toList := by
    induction h with
    | nil => simp
    | cons first _ ih =>
      rw [List.exists_mem_cons_iff, List.exists_mem_cons_iff, first.newline_iff, ih]
  simp only [List.mem_cons, List.mem_append, List.not_mem_nil, or_false, or_and_right, exists_or,
    exists_eq_left, ruled.newline_notMem (by decide), ruled'.newline_notMem (by decide),
    ruled''.newline_notMem (by decide), false_or, shown heads', shown rows']

end Grid

end SharedVariables.Text
