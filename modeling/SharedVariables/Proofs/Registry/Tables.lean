import SharedVariables.Proofs.Name.Text
import SharedVariables.Proofs.Registry.Operation
import SharedVariables.Proofs.Text.Digits
import SharedVariables.Proofs.Text.Grid
import SharedVariables.Registry.Report

/-!
# The printed registry as two tables

`Registry.IsReport` says what it is for lines to print a registry: a title and a drawn table of the
processors, then a title and a drawn table of the variables. The printed registry is made of such lines
in every case. Read as text, split at its newlines, it consists of such lines just if no variable in use
has a newline in its name (`splits_iff`): all the other cells keep to one line, but a name is
shown with the characters that the offering processor gave it.
-/

namespace SharedVariables

open Text

/-! ## Cells of one line -/

/-- No newline is in a text. -/
def OneLine (s : String) : Prop := '\n' ∉ s.toList

namespace OneLine

variable {s t : String}

instance : Decidable (OneLine s) := inferInstanceAs (Decidable (_ ∉ _))

theorem append (hs : OneLine s) (ht : OneLine t) : OneLine (s ++ t) := by
  rw [OneLine, String.toList_append, List.mem_append, not_or]
  exact ⟨hs, ht⟩

theorem nat (n : Nat) : OneLine (toString n) := by
  rw [OneLine, Nat.toString_eq_repr, Nat.toList_repr]
  exact fun newline => forall_mem_toDigits (P := (· ≠ '\n')) (by decide) (by decide) _ newline rfl

theorem int (i : Int) : OneLine (toString i) := by
  rw [Int.toString_eq_repr, Int.repr_eq_if]
  split
  · exact nat _
  · exact append (by decide) (nat _)

theorem hexUpper (width n : Nat) : OneLine (hexUpper width n) := by
  rw [OneLine, Text.hexUpper, String.toList_ofList, zeroPad, List.mem_append, List.mem_map]
  rintro (zero | ⟨digit, hd, upper⟩)
  · exact absurd (List.eq_of_mem_replicate zero) (by decide)
  · exact forall_mem_toDigits (P := fun c => c.toUpper ≠ '\n') (by decide) (by decide) _ hd upper

theorem intercalate {parts : List String} (hs : OneLine s) (h : ∀ part ∈ parts, OneLine part) :
    OneLine (s.intercalate parts) := by
  induction parts with
  | nil => exact List.not_mem_nil
  | cons part parts ih =>
    obtain ⟨first, others⟩ := List.forall_mem_cons.1 h
    cases parts with
    | nil => exact first
    | cons _ _ =>
      rw [String.intercalate_cons_cons]
      exact (first.append hs).append (ih others)

end OneLine

theorem ProcessorId.oneLine_text (id : ProcessorId) : OneLine id.text := by
  have dot : OneLine "." := by decide
  have parent := ((OneLine.int id.proc.toInt).append dot).append (.int id.parent.toInt)
  rw [text]
  split
  · exact .int _
  split
  · exact parent
  · exact (parent.append dot).append (.int _)

theorem Event.oneLine_text (e : Event) : OneLine e.text := by
  have named : ∀ name ∈ (named.filter fun entry => e.contains entry.1).map Prod.snd,
      OneLine name := by
    intro name hn
    obtain ⟨entry, he, rfl⟩ := List.mem_map.1 hn
    exact (by decide : ∀ entry ∈ Event.named, OneLine entry.2) _ (List.mem_of_mem_filter he)
  rw [text]
  dsimp only
  split
  · decide
  refine .intercalate (by decide) ?_
  split
  · exact named
  · intro part hp
    rcases List.mem_append.1 hp with hp | hp
    · exact named part hp
    · exact List.mem_singleton.1 hp ▸ .append (by decide) (.hexUpper _ _)

theorem Control.oneLine_text (c : Control) : OneLine c.text := by
  rcases c with ⟨_ | _, _ | _, _ | _, _ | _⟩ <;> decide

theorem Coupling.oneLine_text (c : Coupling) : OneLine c.text := by cases c <;> decide

theorem AccessState.oneLine_text (s : AccessState) : OneLine s.text := by cases s <;> decide

/-- A name keeps to one line just if the newline is not among its used code points. -/
theorem Name.oneLine_text_iff (name : Name) : OneLine name.text ↔ 0x0A ∉ name.used := by
  rw [OneLine, toList_text, List.mem_map, not_exists]
  constructor
  · intro oneLine newline
    exact oneLine 0x0A ⟨newline, charOf_val '\n'⟩
  · rintro unused point ⟨used, shown⟩
    by_cases valid : point.toNat.isValidChar
    · obtain rfl : point = 0x0A := by rw [← val_charOf_iff.2 valid, shown]; rfl
      exact unused used
    · rw [charOf, if_neg valid] at shown
      exact absurd shown (by decide)

namespace Registry

/-! ## The tables -/

/-- Lines print a registry: behind either title, they draw its processors and its variables. -/
def IsReport (r : Registry) (lines : List (List Char)) : Prop :=
  ∃ processors shared,
    lines = "Registered processors:".toList :: (processors ++
      "Shared variables:".toList :: shared) ∧
    r.processorGrid.IsDrawnBy processors ∧ r.variableGrid.IsDrawnBy shared

theorem length_slotCells (slot : Slot) : (slotCells slot).length = 4 := rfl

theorem length_rowCells (row : Row) : (rowCells row).length = 13 := rfl

theorem processorGrid_regular (r : Registry) : r.processorGrid.Regular 4 where
  header := List.cons_ne_nil _ _
  cells := forall_processorGrid_iff.2 ⟨rfl, fun slot _ => length_slotCells slot⟩

theorem variableGrid_regular (r : Registry) : r.variableGrid.Regular 13 where
  header := List.cons_ne_nil _ _
  cells := forall_variableGrid_iff.2 ⟨⟨rfl, rfl⟩, fun row _ => length_rowCells row⟩

/-- The printed registry is made of lines that print the registry. -/
theorem isReport_reportLines (r : Registry) : r.IsReport r.reportLines :=
  ⟨_, _, rfl, Grid.isDrawnBy_lines r.processorGrid_regular,
    Grid.isDrawnBy_lines r.variableGrid_regular⟩

/-- How many lines print a registry: five for the titles and rules and headings of the processors, six
for those of the variables, and one for each slot and each row in use. -/
theorem IsReport.length_eq {r : Registry} {lines : List (List Char)} (h : r.IsReport lines) :
    lines.length = 11 + r.usedSlots.length + r.usedRows.length := by
  obtain ⟨processors, shared, rfl, processors', shared'⟩ := h
  simp only [List.length_cons, List.length_append, processors'.length_eq, shared'.length_eq,
    processorGrid, variableGrid, List.length_nil, List.length_map]
  omega

/-! ## Newlines -/

theorem oneLine_slotCells (slot : Slot) : ∀ cell ∈ slotCells slot, OneLine cell := by
  simp only [slotCells, List.forall_mem_cons, List.not_mem_nil, false_implies, implies_true,
    and_true]
  exact ⟨slot.partner.id.oneLine_text, .nat _, .nat _, slot.events.oneLine_text⟩

theorem oneLine_partnerCells (p : Partner) : ∀ cell ∈ partnerCells p, OneLine cell := by
  simp only [partnerCells, List.forall_mem_cons, List.not_mem_nil, false_implies, implies_true,
    and_true]
  exact ⟨p.id.oneLine_text, .nat _, .nat _, .hexUpper _ _⟩

/-- Only its name can take a variable more than one line. -/
theorem oneLine_rowCells_iff (row : Row) :
    (∀ cell ∈ rowCells row, OneLine cell) ↔ 0x0A ∉ row.name.used := by
  rw [← row.name.oneLine_text_iff]
  constructor
  · exact fun all => all _ (List.mem_append_right _ (by simp))
  · intro name
    simp only [rowCells, List.forall_mem_append, List.forall_mem_cons, List.not_mem_nil,
      false_implies, implies_true, and_true]
    exact ⟨⟨⟨⟨.nat _, row.coupling.oneLine_text⟩, oneLine_partnerCells _⟩, oneLine_partnerCells _⟩,
      row.combinedControl.oneLine_text, row.state.oneLine_text, name⟩

theorem oneLine_processorGrid (r : Registry) :
    ∀ cells ∈ r.processorGrid.header ++ r.processorGrid.body, ∀ cell ∈ cells, OneLine cell :=
  forall_processorGrid_iff.2 ⟨by decide, fun slot _ => oneLine_slotCells slot⟩

theorem oneLine_variableGrid_iff (r : Registry) :
    (∀ cells ∈ r.variableGrid.header ++ r.variableGrid.body, ∀ cell ∈ cells, OneLine cell) ↔
      ∀ row ∈ r.usedRows, 0x0A ∉ row.name.used := by
  rw [forall_variableGrid_iff, and_iff_right ⟨by decide, by decide⟩]
  exact forall₂_congr fun row _ => oneLine_rowCells_iff row

theorem oneLines_iff {g : Grid} {lines : List (List Char)} (h : g.IsDrawnBy lines) :
    (∀ line ∈ lines, '\n' ∉ line) ↔
      ∀ cells ∈ g.header ++ g.body, ∀ cell ∈ cells, OneLine cell := by
  simpa only [OneLine, not_exists, not_and] using not_congr h.newline_iff

/-- The lines that print a registry have newlines only in the names of its variables. -/
theorem IsReport.newline_notMem_iff {r : Registry} {lines : List (List Char)}
    (h : r.IsReport lines) :
    (∀ line ∈ lines, '\n' ∉ line) ↔ ∀ row ∈ r.usedRows, 0x0A ∉ row.name.used := by
  obtain ⟨processors, shared, rfl, processors', shared'⟩ := h
  rw [List.forall_mem_cons, List.forall_mem_append, List.forall_mem_cons, oneLines_iff processors',
    oneLines_iff shared', oneLine_variableGrid_iff]
  have titles : '\n' ∉ "Registered processors:".toList ∧ '\n' ∉ "Shared variables:".toList := by
    decide
  rw [and_iff_right titles.1, and_iff_right r.oneLine_processorGrid, and_iff_right titles.2]

/-- What the printed registry is split into at its newlines prints the registry just if no variable in
use has a newline in its name: if there are as many pieces as lines, no line was split itself. -/
theorem splits_iff (r : Registry) :
    (∃ lines, r.IsReport lines ∧ r.report.toList.splitOn '\n' = lines ++ [[]]) ↔
      ∀ row ∈ r.usedRows, 0x0A ∉ row.name.used := by
  rw [← r.isReport_reportLines.newline_notMem_iff]
  constructor
  · rintro ⟨lines, printed, split⟩
    have pieces := congrArg List.length split
    rw [List.length_append, List.length_singleton, printed.length_eq,
      ← r.isReport_reportLines.length_eq] at pieces
    exact (length_splitOn_unlines r.reportLines).2 (Nat.le_of_eq pieces)
  · intro unbroken
    exact ⟨r.reportLines, r.isReport_reportLines, splitOn_unlines unbroken⟩

/-- A registry is printed as two tables: its text is made of a title, three rules, a heading and a line
for each registered processor, and of a title, three rules, two headings and a line for each variable in
use, and the lines of a table have one length, whatever is in its cells. The text is split into these
lines at its newlines just if no variable in use has a newline in its name; for any other cell has none,
but a name is shown as it is. -/
theorem report_tabulates (r : Registry) :
    (∃ lines, r.IsReport lines ∧ r.report = unlines lines) ∧
    (∀ lines, r.IsReport lines →
      lines.length = (1 + 3 + 1 + r.usedSlots.length) + (1 + 3 + 2 + r.usedRows.length)) ∧
    ((∃ lines, r.IsReport lines ∧ r.report.toList.splitOn '\n' = lines ++ [[]]) ↔
      ∀ row ∈ r.usedRows, 0x0A ∉ row.name.used) :=
  ⟨⟨_, r.isReport_reportLines, rfl⟩, fun _ printed => printed.length_eq.trans (by omega),
    r.splits_iff⟩

/-- An offer of a name with a newline takes two lines in the table of variables. -/
theorem newline_in_name_splits_line :
    let ops := [.matchOrMake (.ofPoints [0x41, 0x0A, 0x42]) .general
      (.ofProcess (.single 1001) 10 5001)]
    let r := empty.run ops
    r.Reachable ∧ ¬∃ lines, r.IsReport lines ∧ r.report.toList.splitOn '\n' = lines ++ [[]] := by
  refine ⟨⟨_, rfl⟩, fun splits => ?_⟩
  have named : 0x0A ∈ ((empty.run [.matchOrMake (.ofPoints [0x41, 0x0A, 0x42]) .general
      (.ofProcess (.single 1001) 10 5001)]).usedRows.flatMap fun row => row.name.used) := by
    decide +kernel
  obtain ⟨row, used, newline⟩ := List.mem_flatMap.1 named
  exact (splits_iff _).1 splits row used newline

end Registry

end SharedVariables
