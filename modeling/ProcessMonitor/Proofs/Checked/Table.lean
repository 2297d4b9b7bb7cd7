-- The process list with every sample checked. The view keeps places of the pass, and a
-- sample is read at such a place only when it is shown.
import ProcessMonitor.Proofs.Checked.Text
import ProcessMonitor.Proofs.TableRuns
import ProcessMonitor.Screen.Processes

namespace ProcessMonitor

/-- Each row of the view is a sample of the pass, at its place. -/
def Table.Backed (table : Table) : Prop := ∀ row ∈ table.view, table.samples[row.2]? = some row.1

namespace Checked

open Screen (Layout Stroke)

/-! ## The window -/

/-- The window moved as far as the selected row and the end of the list ask for. -/
def settledOffset (size rows selected offset : Nat) : Checked Nat := do
  let showing ←
    if selected < offset then pure selected
    else if offset + rows ≤ selected then minus (selected + 1) rows
    else pure offset
  pure (min showing (size - rows))

def settle (table : Table) : Checked Table :=
  if table.view.isEmpty then pure { table with selected := 0, offset := 0 }
  else do
    let last ← minus table.size 1
    let selected := min table.selected last
    let offset ← settledOffset table.size (max table.rows 1) selected table.offset
    pure { table with selected, offset }

def setRows (table : Table) (rows : Nat) : Checked Table := settle { table with rows := max rows 1 }

/-! ## What the screen reads -/

/-- The process at a place of the view, read from the pass. -/
def get? (table : Table) (place : Nat) : Checked (Option ProcessSample) :=
  match table.view[place]? with
  | none => pure none
  | some row => do
    let sample ← item table.samples row.2
    pure (some sample)

def selected? (table : Table) : Checked (Option ProcessSample) := get? table table.selected

/-- The samples in the window, read from the pass, with their places in the view. -/
def window (table : Table) : Checked (List (ProcessSample × Nat)) :=
  ((table.view.zipIdx.drop table.offset).take table.rows).mapM fun (row, place) => do
    let sample ← item table.samples row.2
    pure (sample, place)

/-! ## Rows of the screen -/

/-- The columns in front of the two percentages. -/
def rowStart (p : ProcessSample) : Checked String := do
  let owner ← fit p.owner Screen.ownerWidth
  pure
    (" " ++ Text.padLeft 7 (toString p.pid) ++ " " ++ owner
      ++ " " ++ Text.padLeft 4 (toString p.priority) ++ " " ++ Text.padLeft 4 (toString p.nice)
      ++ " " ++ Text.padLeft 7 (formatKb p.virtualKb) ++ " " ++ Text.padLeft 7 (formatKb p.residentKb)
      ++ " " ++ String.singleton p.state ++ " " ++ Text.padLeft 4 (toString p.threads) ++ " ")

def columnHeadings (row width : Nat) (table : Table) : Checked (List Stroke) := do
  let arrow := if table.descending then "↓" else "↑"
  let shown ← fit (Screen.headings ++ "  [" ++ table.column.name ++ " " ++ arrow ++ "]") width
  pure [.moveTo 0 row, .background .darkGrey, .foreground .white, .print shown, .plain]

def processRow (y width : Nat) (selected : Bool) (p : ProcessSample) : Checked (List Stroke) := do
  let (ground, ink) := Screen.rowColours selected
  let start ← rowStart p
  let command ← truncate p.command (width - Screen.fixedColumnsWidth)
  let (pieces, room) ← putPieces width
    [(ink, start),
     (Screen.usageColour p.cpu, Screen.percentColumn p.cpu),
     (Screen.usageColour p.memory, Screen.percentColumn p.memory),
     (ink, command)]
  pure (.moveTo 0 y :: .background ground :: (pieces ++ [.print (Text.spaces room), .plain]))

/-- The window of the list and the blank rows below it. -/
def processRows (layout : Layout) (table : Table) : Checked (List Stroke) := do
  let inWindow ← window table
  let shown := inWindow.take layout.tableRows
  let drawn ← drawAll shown.zipIdx fun ((process, place), line) =>
    processRow (layout.tableTop + line) layout.width (place == table.selected) process
  let blank := (List.range (layout.tableRows - shown.length)).flatMap fun line =>
    Screen.blankRow (layout.tableTop + (shown.length + line)) layout.width
  pure (drawn ++ blank)

/-! ## No row goes astray -/

theorem settledOffset_eq (size rows selected offset : Nat) :
    settledOffset size rows selected offset =
      pure (Table.settledOffset size rows selected offset) := by
  unfold settledOffset Table.settledOffset
  split
  · rfl
  · split
    · rename_i hbelow
      rw [minus_of_le (by omega), pure_bind]
    · rfl

@[simp] theorem settle_eq (table : Table) : settle table = pure table.settle := by
  unfold settle Table.settle
  split
  · rfl
  · rename_i hview
    have hsize : 1 ≤ table.size := by
      rw [List.isEmpty_iff, ← List.length_eq_zero_iff] at hview
      exact Nat.pos_of_ne_zero hview
    simp only [minus_of_le hsize, settledOffset_eq, pure_bind]

@[simp] theorem setRows_eq (table : Table) (rows : Nat) :
    setRows table rows = pure (table.setRows rows) :=
  settle_eq _

section Backed

variable {table : Table} (h : table.Backed)

include h

theorem get?_eq (place : Nat) : get? table place = pure (table.get? place) := by
  unfold get? Table.get?
  cases hrow : table.view[place]? with
  | none => rfl
  | some row =>
    simp only [item_of_getElem? (h row (List.mem_of_getElem? hrow)), pure_bind, Option.map_some]

theorem selected?_eq : selected? table = pure table.selected? := get?_eq h table.selected

theorem window_eq : window table = pure table.window := by
  have hwindow : table.window = ((table.view.zipIdx.drop table.offset).take table.rows).map
      fun entry => (entry.1.1, entry.2) := by
    rw [Table.window, Table.toList, List.zipIdx_map, List.map_take, List.map_drop]
    rfl
  rw [hwindow]
  refine mapM_eq_pure fun entry hentry => ?_
  have hrow : entry.1 ∈ table.view := List.fst_mem_of_mem_zipIdx
    (List.mem_of_mem_drop (List.mem_of_mem_take hentry))
  simp only [item_of_getElem? (h entry.1 hrow), pure_bind]

end Backed

/-- A row that is no sample of the pass is noticed. -/
example (p : ProcessSample) :
    get? { Table.empty .pid false "" with view := [(p, 0)] } 0 = .error (.noPlace 0 0) := rfl

@[simp] theorem rowStart_eq (p : ProcessSample) : rowStart p = pure (Screen.rowStart p) := by
  simp only [rowStart, fit_eq, pure_bind]
  rfl

@[simp] theorem columnHeadings_eq (row width : Nat) (table : Table) :
    columnHeadings row width table = pure (Screen.columnHeadings row width table) := by
  simp only [columnHeadings, fit_eq, pure_bind]
  rfl

@[simp] theorem processRow_eq (y width : Nat) (selected : Bool) (p : ProcessSample) :
    processRow y width selected p = pure (Screen.processRow y width selected p) := by
  simp only [processRow, rowStart_eq, truncate_eq, putPieces_eq, pure_bind]
  rfl

theorem processRows_eq (layout : Layout) {table : Table} (h : table.Backed) :
    processRows layout table = pure (Screen.processRows layout table) := by
  have hdrawn (shown : List ((ProcessSample × Nat) × Nat)) :=
    drawAll_eq_pure fun entry (_ : entry ∈ shown) => processRow_eq (layout.tableTop + entry.2)
      layout.width (entry.1.2 == table.selected) entry.1.1
  simp only [processRows, window_eq h, pure_bind, hdrawn]
  rfl

end Checked

end ProcessMonitor
