import SharedVariables.Registry.Basic
import SharedVariables.Text.Grid

/-!
# The printed registry

A registry is printed as two tables: the registered processors, and the shared variables.
-/

namespace SharedVariables.Registry

open Text

/-- The line of a registered processor. -/
def slotCells (slot : Slot) : List String :=
  [slot.partner.id.text, toString slot.partner.pid.toNat, toString slot.partner.port.toNat,
    slot.events.text]

/-- The identity, process, port and flags of one side. -/
def partnerCells (p : Partner) : List String :=
  [p.id.text, toString p.pid.toNat, toString p.port.toNat, hexUpper 2 p.flags.toWord.toNat]

/-- The line of a shared variable. -/
def rowCells (row : Row) : List String :=
  [toString (row.key.raw.toNat % 0x10000), row.coupling.text] ++ partnerCells row.offering ++
    partnerCells row.accepting ++ [row.combinedControl.text, row.state.text, row.name.text]

/-- The table of registered processors. -/
def processorGrid (r : Registry) : Grid where
  header := [["Proc", "PID", "Port", "Events"]]
  body := r.usedSlots.map slotCells

/-- The table of shared variables. -/
def variableGrid (r : Registry) : Grid where
  header :=
    [["Seq", "C", "Offering", "PID", "Port", "Flg", "Accepting", "PID", "Port", "Flg", "OAOA",
        "State", "Name"],
      ["", "", "proc", "", "", "", "proc", "", "", "", "SSUU", "", ""]]
  body := r.usedRows.map rowCells

/-- What holds of all lines of cells: it holds of the headings and of each line behind them. -/
theorem forall_processorGrid_iff {r : Registry} {P : List String → Prop} :
    (∀ cells ∈ r.processorGrid.header ++ r.processorGrid.body, P cells) ↔
      P ["Proc", "PID", "Port", "Events"] ∧ ∀ slot ∈ r.usedSlots, P (slotCells slot) := by
  rw [processorGrid, List.forall_mem_append, List.forall_mem_singleton, List.forall_mem_map]

theorem forall_variableGrid_iff {r : Registry} {P : List String → Prop} :
    (∀ cells ∈ r.variableGrid.header ++ r.variableGrid.body, P cells) ↔
      (P ["Seq", "C", "Offering", "PID", "Port", "Flg", "Accepting", "PID", "Port", "Flg", "OAOA",
          "State", "Name"] ∧
        P ["", "", "proc", "", "", "", "proc", "", "", "", "SSUU", "", ""]) ∧
      ∀ row ∈ r.usedRows, P (rowCells row) := by
  rw [variableGrid, List.forall_mem_append, List.forall_mem_cons, List.forall_mem_singleton,
    List.forall_mem_map]

/-- The lines of both tables with their titles. -/
def reportLines (r : Registry) : List (List Char) :=
  "Registered processors:".toList :: r.processorGrid.lines ++
    "Shared variables:".toList :: r.variableGrid.lines

/-- The printed registry. -/
def report (r : Registry) : String := unlines r.reportLines

end SharedVariables.Registry
