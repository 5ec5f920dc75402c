import Mathlib.Algebra.Order.BigOperators.Group.List
import SharedVariables.Proofs.Name.Text
import SharedVariables.Proofs.Text.Size
import SharedVariables.Registry.Report
import SharedVariables.Registry.Directory

/-!
# How long the lists of a registry get

What a registry lists about itself is bounded, since its tables are: the printed registry has no more
bytes than a two-byte length can announce (`report_size_le`), and there are no more processors with
offers and offered variables than rows (`length_offeringProcessors_le`, `length_offeredVariables_le`).
-/

namespace SharedVariables

open Text
open String (utf8Len)

/-! ## Cells -/

theorem atMost_number (n : Int32) : AtMost 11 0 (toString n.toInt) := by
  have := n.le_toInt
  have := n.toInt_lt
  exact AtMost.int (n := 10) (by decide) (by omega) (by omega)

theorem atMost_pid (pid : UInt32) : AtMost 10 0 (toString pid.toNat) :=
  AtMost.nat (by decide) (Nat.lt_trans pid.toNat_lt (by decide))

theorem atMost_port (port : UInt16) : AtMost 5 0 (toString port.toNat) :=
  AtMost.nat (by decide) (Nat.lt_trans port.toNat_lt (by decide))

theorem ProcessorId.atMost_text (id : ProcessorId) : AtMost 35 0 id.text := by
  have dot : AtMost 1 0 "." := by decide
  have own := atMost_number id.proc
  have parent := (own.append dot).append (atMost_number id.parent)
  have grand := (parent.append dot).append (atMost_number id.grand)
  rw [text]
  split
  · exact own.mono (by decide) (by decide)
  split
  · exact parent.mono (by decide) (by decide)
  · exact grand

/-- The lengths of the names of events, each with a bar. -/
theorem Event.length_names_le (e : Event) :
    (((named.filter fun entry => e.contains entry.1).map Prod.snd).map
      fun name => name.length + 1).sum ≤ 91 := by
  have := ((List.filter_sublist (p := fun entry => e.contains entry.1) (l := named)).map
    Prod.snd).map fun name : String => name.length + 1
  exact Nat.le_trans (this.sum_le_sum fun _ _ => Nat.zero_le _) (by decide)

theorem Event.atMost_text (e : Event) : AtMost 102 306 e.text := by
  refine AtMost.of_length ?_
  have names := e.length_names_le
  have nameless : (hexUpper 1 (e.bits &&& 0xFFFFFF80).toNat).length ≤ 8 :=
    (AtMost.hexUpper (n := 8) (by decide) (by decide) (UInt32.toNat_lt _)).length
  have parts (parts : List String) (h : (parts.map fun p => p.length + 1).sum ≤ 102) :
      ("|".intercalate parts).length ≤ 102 := Nat.le_trans (length_intercalate_le "|" parts) h
  have zx : "0x".length = 2 := by decide
  rw [text]
  dsimp only
  split
  · decide
  split
  · exact parts _ (Nat.le_trans names (by decide))
  · refine parts _ ?_
    rw [List.map_append, List.sum_append, List.map_singleton, List.sum_singleton,
      String.length_append, zx]
    omega

theorem Name.atMost_text (n : Name) : AtMost 64 192 n.text := AtMost.of_length n.length_text_le

theorem Control.atMost_text (c : Control) : AtMost 4 0 c.text := by
  rcases c with ⟨_ | _, _ | _, _ | _, _ | _⟩ <;> decide

theorem Coupling.atMost_text (c : Coupling) : AtMost 1 0 c.text := by
  cases c <;> decide

theorem AccessState.atMost_text (s : AccessState) : AtMost 15 0 s.text := by
  cases s <;> decide

namespace Registry

/-! ## The printed registry -/

/-- The bounds for a partner: its identity, process, port and flags. -/
def partnerBounds : Grid.Bounds := [(35, 0), (10, 0), (5, 0), (4, 12)]

/-- The bounds for the columns of registered processors. -/
def slotBounds : Grid.Bounds := [(35, 0), (10, 0), (5, 0), (102, 306)]

/-- The bounds for the columns of shared variables. -/
def rowBounds : Grid.Bounds :=
  [(5, 0), (1, 0)] ++ partnerBounds ++ partnerBounds ++ [(4, 0), (15, 0), (64, 192)]

theorem keeps_slotCells (slot : Slot) : Grid.Keeps slotBounds (slotCells slot) :=
  .cons slot.partner.id.atMost_text <| .cons (atMost_pid _) <| .cons (atMost_port _) <|
    .cons slot.events.atMost_text .nil

theorem keeps_partnerCells (p : Partner) : Grid.Keeps partnerBounds (partnerCells p) :=
  .cons p.id.atMost_text <| .cons (atMost_pid _) <| .cons (atMost_port _) <|
    .cons (AtMost.hexUpper (n := 4) (by decide) (by decide) p.flags.toWord.toNat_lt) .nil

theorem keeps_rowCells (row : Row) : Grid.Keeps rowBounds (rowCells row) := by
  have seq : AtMost 5 0 (toString (row.key.raw.toNat % 0x10000)) :=
    AtMost.nat (by decide) (by omega)
  have front : Grid.Keeps [(5, 0), (1, 0)]
      [toString (row.key.raw.toNat % 0x10000), row.coupling.text] :=
    .cons seq (.cons row.coupling.atMost_text .nil)
  have back : Grid.Keeps [(4, 0), (15, 0), (64, 192)]
      [row.combinedControl.text, row.state.text, row.name.text] :=
    .cons row.combinedControl.atMost_text <| .cons row.state.atMost_text <|
      .cons row.name.atMost_text .nil
  exact List.rel_append (List.rel_append (List.rel_append front (keeps_partnerCells _))
    (keeps_partnerCells _)) back

theorem length_usedRows_le (r : Registry) : r.usedRows.length ≤ rowCapacity := by
  have := List.length_filter_le (fun row => !decide row.Free) r.rows.toList
  rwa [Vector.length_toList] at this

theorem length_usedSlots_le (r : Registry) : r.usedSlots.length ≤ slotCapacity := by
  have := List.length_filter_le (fun slot => decide slot.Used) r.slots.toList
  rwa [Vector.length_toList] at this

theorem keeps_processorGrid (r : Registry) :
    ∀ cells ∈ r.processorGrid.header ++ r.processorGrid.body, Grid.Keeps slotBounds cells :=
  forall_processorGrid_iff.2 ⟨by decide, fun slot _ => keeps_slotCells slot⟩

theorem keeps_variableGrid (r : Registry) :
    ∀ cells ∈ r.variableGrid.header ++ r.variableGrid.body, Grid.Keeps rowBounds cells :=
  forall_variableGrid_iff.2 ⟨⟨by decide, by decide⟩, fun row _ => keeps_rowCells row⟩

/-- The printed registry fits behind a two-byte length. -/
theorem report_size_le (r : Registry) : r.report.utf8ByteSize ≤ 65535 := by
  have slots := r.length_usedSlots_le
  have rows := r.length_usedRows_le
  have processors : linesSize r.processorGrid.lines ≤
      3 * (Grid.ruleSize slotBounds + 1) + (1 + slotCapacity) * (Grid.lineSize slotBounds + 1) := by
    refine Nat.le_trans (Grid.linesSize_lines_le rfl r.keeps_processorGrid) ?_
    simp only [processorGrid, List.length_map, List.length_singleton]
    gcongr
  have shared : linesSize r.variableGrid.lines ≤
      3 * (Grid.ruleSize rowBounds + 1) + (2 + rowCapacity) * (Grid.lineSize rowBounds + 1) := by
    refine Nat.le_trans (Grid.linesSize_lines_le rfl r.keeps_variableGrid) ?_
    simp only [variableGrid, List.length_map, List.length_cons, List.length_nil]
    gcongr
  have slotSizes : Grid.ruleSize slotBounds = 498 ∧ Grid.lineSize slotBounds = 481 := by decide
  have rowSizes : Grid.ruleSize rowBounds = 714 ∧ Grid.lineSize rowBounds = 481 := by decide
  have titles : utf8Len "Registered processors:".toList = 22 ∧
      utf8Len "Shared variables:".toList = 17 := by decide
  rw [report, utf8ByteSize_unlines, reportLines, linesSize_append, linesSize_cons, linesSize_cons,
    titles.1, titles.2]
  rw [slotSizes.1, slotSizes.2] at processors
  rw [rowSizes.1, rowSizes.2] at shared
  simp only [rowCapacity, slotCapacity] at *
  omega

/-! ## Lists of processors and names -/

theorem length_offersTo_le (r : Registry) (addressee : ProcessorNumber) :
    (r.offersTo addressee).length ≤ rowCapacity :=
  Nat.le_trans (List.length_filter_le ..) r.length_usedRows_le

theorem length_offeringProcessors_le (r : Registry) (addressee : ProcessorNumber) :
    (r.offeringProcessors addressee).length ≤ rowCapacity := by
  have once (procs found : List ProcessorNumber) :
      (procs.foldl (fun procs proc => if proc ∈ procs then procs else procs ++ [proc]) found).length
        ≤ found.length + procs.length := by
    induction procs generalizing found with
    | nil => simp
    | cons proc procs ih =>
      refine Nat.le_trans (ih _) ?_
      dsimp only
      split <;> simp only [List.length_append, List.length_cons, List.length_nil] <;> omega
  refine Nat.le_trans (once _ []) ?_
  rw [List.length_nil, Nat.zero_add, List.length_map]
  exact r.length_offersTo_le addressee

theorem length_offeredVariables_le (r : Registry) (addressee offering : ProcessorNumber) :
    (r.offeredVariables addressee offering).length ≤ rowCapacity := by
  rw [offeredVariables, List.length_map]
  exact Nat.le_trans (List.length_filter_le ..) (r.length_offersTo_le addressee)

end Registry

end SharedVariables
