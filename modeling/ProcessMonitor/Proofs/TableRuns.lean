-- The process list under any operations, one after the other. Each operation
-- changes the selection, the window, or what the view is derived from, and then
-- settles the list, so what holds of every settled list holds at the end of
-- every run.
import ProcessMonitor.Table.Basic

namespace ProcessMonitor.Table

/-! ## Operations -/

/-- One operation on the list with its arguments. -/
inductive Operation where
  | update (samples : List ProcessSample)
  | setRows (rows : Nat)
  | move (delta : Int)
  | page (pages : Int)
  | toStart
  | toEnd
  | cycleColumn
  | reverse
  | setFilter (filter : String)
  | clearFilter

/-- The list after one operation. -/
def apply (table : Table) : Operation → Table
  | .update samples => table.update samples
  | .setRows rows => table.setRows rows
  | .move delta => table.move delta
  | .page pages => table.page pages
  | .toStart => table.toStart
  | .toEnd => table.toEnd
  | .cycleColumn => table.cycleColumn
  | .reverse => table.reverse
  | .setFilter filter => table.setFilter filter
  | .clearFilter => table.clearFilter

/-- The list after operations in order. -/
def run (table : Table) (operations : List Operation) : Table := operations.foldl apply table

/-! ## What settling leaves alone -/

@[simp] theorem settle_samples (table : Table) : table.settle.samples = table.samples := by
  unfold settle; split <;> rfl

@[simp] theorem settle_view (table : Table) : table.settle.view = table.view := by
  unfold settle; split <;> rfl

@[simp] theorem settle_column (table : Table) : table.settle.column = table.column := by
  unfold settle; split <;> rfl

@[simp] theorem settle_descending (table : Table) : table.settle.descending = table.descending := by
  unfold settle; split <;> rfl

@[simp] theorem settle_filter (table : Table) : table.settle.filter = table.filter := by
  unfold settle; split <;> rfl

@[simp] theorem settle_rows (table : Table) : table.settle.rows = table.rows := by
  unfold settle; split <;> rfl

@[simp] theorem settle_size (table : Table) : table.settle.size = table.size := by
  simp [size]

/-! ## One operation -/

/-- The view is the one that the samples, the filter, the column and the
direction give. -/
def Derived (table : Table) : Prop :=
  table.view = viewOf table.samples table.column table.descending table.filter

theorem derived_empty (column : SortColumn) (descending : Bool) (filter : String) :
    (empty column descending filter).Derived := by
  simp [Derived, empty, viewOf]

theorem derived_settle {table : Table} (h : table.Derived) : table.settle.Derived := by
  unfold Derived at h ⊢
  simpa using h

/-- Every operation ends by settling a list. That list has a row when the one
before had, its view is derived when the one before was, and its window still stands
where it stood. -/
theorem apply_eq_settle (table : Table) (op : Operation) :
    ∃ before : Table, table.apply op = before.settle ∧ (1 ≤ table.rows → 1 ≤ before.rows) ∧
      (table.Derived → before.Derived) ∧ before.offset = table.offset := by
  cases op with
  | update samples => exact ⟨_, rfl, id, fun _ => rfl, rfl⟩
  | setRows rows => exact ⟨_, rfl, fun _ => Nat.le_max_right rows 1, id, rfl⟩
  | move delta => exact ⟨_, rfl, id, id, rfl⟩
  | page pages => exact ⟨_, rfl, id, id, rfl⟩
  | toStart => exact ⟨_, rfl, id, id, rfl⟩
  | toEnd => exact ⟨_, rfl, id, id, rfl⟩
  | cycleColumn => exact ⟨_, rfl, id, fun _ => rfl, rfl⟩
  | reverse => exact ⟨_, rfl, id, fun _ => rfl, rfl⟩
  | setFilter filter => exact ⟨_, rfl, id, fun _ => rfl, rfl⟩
  | clearFilter => exact ⟨_, rfl, id, fun _ => rfl, rfl⟩

theorem derived_apply {table : Table} (op : Operation) (h : table.Derived) :
    (table.apply op).Derived := by
  obtain ⟨before, he, _, hd, _⟩ := apply_eq_settle table op
  rw [he]
  exact derived_settle (hd h)

/-! ## A run -/

/-- What every operation keeps holds at the end of every run. -/
theorem run_induction {P : Table → Prop} {table : Table} (start : P table)
    (step : ∀ (t : Table) (op : Operation), P t → P (t.apply op)) (operations : List Operation) :
    P (table.run operations) := by
  induction operations generalizing table with
  | nil => exact start
  | cons op rest ih => exact ih (step table op start)

theorem derived_run {table : Table} (h : table.Derived) (operations : List Operation) :
    (table.run operations).Derived :=
  run_induction h (fun _ op ht => derived_apply op ht) operations

end ProcessMonitor.Table
