-- The laws of coming back. Sorting in another order leaves the selection and the window
-- where they stand, and deriving a view again that is derived changes nothing. So
-- operations that end with the order, the filter, the samples and the place that they
-- began with leave the whole list as it was.
import Mathlib.Logic.Function.Iterate
import ProcessMonitor.Proofs.TableFilter
import ProcessMonitor.Proofs.TableScroll

namespace ProcessMonitor

/-- Six steps go through all columns and back to the first. -/
theorem SortColumn.iterate_next_six (column : SortColumn) : next^[6] column = column := by
  cases column <;> rfl

namespace Table

/-! ## A list that is settled -/

/-- The window of a good list is where settling would put it. -/
theorem Good.settledOffset_eq {table : Table} (h : table.Good) (hpos : 0 < table.size) :
    settledOffset table.size table.rows table.selected table.offset = table.offset := by
  have hwindow := h.selected_lt_window
  have hselected := h.offset_le_selected
  have hlast := h.offset_le
  rw [settledOffset_eq_between _ _ _ _ h.rows_pos (h.selected_lt hpos)]
  omega

theorem Good.settle_eq {table : Table} (h : table.Good) : table.settle = table := by
  rcases Nat.eq_zero_or_pos table.size with hsize | hpos
  · obtain ⟨hselected, hoffset⟩ := h.at_start hsize
    rw [settle_of_size_eq_zero hsize]
    cases table
    simp_all
  · have hlt := h.selected_lt hpos
    have hselected : min table.selected (table.size - 1) = table.selected := by omega
    rw [settle_of_size_pos h.rows_pos hpos, hselected, h.settledOffset_eq hpos]

/-! ## Another order -/

/-- The list in the order of a column and a direction, with the selection and the window
at the places where they stand. -/
def sortedBy (table : Table) (column : SortColumn) (descending : Bool) : Table :=
  { table with
    column, descending, view := viewOf table.samples column descending table.filter }

@[simp] theorem sortedBy_column (table : Table) (column : SortColumn) (descending : Bool) :
    (table.sortedBy column descending).column = column := rfl

@[simp] theorem sortedBy_descending (table : Table) (column : SortColumn) (descending : Bool) :
    (table.sortedBy column descending).descending = descending := rfl

@[simp] theorem sortedBy_sortedBy (table : Table) (column other : SortColumn)
    (descending turned : Bool) :
    (table.sortedBy column descending).sortedBy other turned = table.sortedBy other turned := rfl

theorem derived_sortedBy (table : Table) (column : SortColumn) (descending : Bool) :
    (table.sortedBy column descending).Derived := rfl

section Derived

variable {table : Table} (h : table.Good) (hd : table.Derived)

include hd

theorem sortedBy_self : table.sortedBy table.column table.descending = table := by
  unfold sortedBy
  rw [← hd]

theorem size_sortedBy (column : SortColumn) (descending : Bool) :
    (table.sortedBy column descending).size = table.size := by
  unfold size
  rw [hd]
  unfold sortedBy
  rw [length_viewOf, length_viewOf]

include h

/-- The invariant speaks of the length of the view and not of its rows. -/
theorem Good.sortedBy (column : SortColumn) (descending : Bool) :
    (table.sortedBy column descending).Good := by
  have hsize := size_sortedBy hd column descending
  refine ⟨h.rows_pos, ?_, ?_, h.offset_le_selected, h.selected_lt_window, ?_⟩
  · rw [hsize]
    exact h.at_start
  · rw [hsize]
    exact h.selected_lt
  · rw [hsize]
    exact h.offset_le

theorem Good.rebuild_eq : table.rebuild = table := by
  have hview : { table with
      view := viewOf table.samples table.column table.descending table.filter } = table :=
    sortedBy_self hd
  unfold rebuild
  rw [hview, h.settle_eq]

theorem Good.reverse_eq : table.reverse = table.sortedBy table.column (!table.descending) :=
  (h.sortedBy hd table.column (!table.descending)).settle_eq

theorem Good.cycleColumn_eq :
    table.cycleColumn = table.sortedBy table.column.next table.descending :=
  (h.sortedBy hd table.column.next table.descending).settle_eq

theorem Good.iterate_cycleColumn (n : Nat) :
    cycleColumn^[n] table = table.sortedBy (SortColumn.next^[n] table.column) table.descending := by
  induction n with
  | zero => exact (sortedBy_self hd).symm
  | succ n ih =>
    have hnext := (h.sortedBy hd (SortColumn.next^[n] table.column) table.descending).cycleColumn_eq
      (derived_sortedBy _ _ _)
    rw [Function.iterate_succ_apply', ih, hnext, Function.iterate_succ_apply']
    simp

end Derived

/-! ## The same place -/

theorem Good.setRows_eq {table : Table} (h : table.Good) : table.setRows table.rows = table := by
  unfold setRows
  rw [Nat.max_eq_left h.rows_pos, h.settle_eq]

/-- A selection stays where it is when its place can be asked for. -/
theorem Good.move_zero {table : Table} (h : table.Good) (hplace : table.selected ≤ lastPlace) :
    table.move 0 = table := by
  have hselected : min (table.selected + 0 : Int).toNat lastPlace = table.selected := by
    rw [Int.add_zero, Int.toNat_natCast, Nat.min_eq_left hplace]
  unfold move
  rw [hselected, h.settle_eq]

theorem Good.selected_le_total {table : Table} (h : table.Good) (hd : table.Derived) :
    table.selected ≤ table.total := by
  rcases Nat.eq_zero_or_pos table.size with hsize | hpos
  · rw [(h.at_start hsize).1]
    exact Nat.zero_le _
  · have hlt := h.selected_lt hpos
    have htotal := size_le_total hd
    omega

/-! ## The laws -/

/-- After any operations, each of these leaves the whole list as it was, with its view, its
selection and its window: to turn the direction twice, to go through the six columns, to
filter by the text that filters, to take the samples that are there, to keep the height,
and to move by no row. The last needs a list of no more processes than a 64-bit number
can count, as a selection past that could not be asked for. -/
theorem what_ends_where_it_began_changes_nothing (column : SortColumn) (descending : Bool)
    (filter : String) (operations : List Operation) :
    let table := (empty column descending filter).run operations
    table.reverse.reverse = table ∧
      cycleColumn^[6] table = table ∧
      table.setFilter table.filter = table ∧
      table.update table.samples = table ∧
      table.setRows table.rows = table ∧
      (table.total ≤ lastPlace → table.move 0 = table) := by
  intro table
  have hgood : table.Good := good_run (good_empty column descending filter) operations
  have hderived : table.Derived := derived_run (derived_empty column descending filter) operations
  refine ⟨?_, ?_, hgood.rebuild_eq hderived, hgood.rebuild_eq hderived, hgood.setRows_eq, ?_⟩
  · have hturned := hgood.sortedBy hderived table.column (!table.descending)
    rw [hgood.reverse_eq hderived, hturned.reverse_eq (derived_sortedBy _ _ _)]
    simp [sortedBy_self hderived]
  · rw [hgood.iterate_cycleColumn hderived, SortColumn.iterate_next_six, sortedBy_self hderived]
  · intro htotal
    exact hgood.move_zero (Nat.le_trans (hgood.selected_le_total hderived) htotal)

/-- With the last of two processes selected, their list stays as it is. -/
theorem no_move_keeps_the_last_process :
    let table := (empty .pid false "").run [.update services, .toEnd]
    table.total = 2 ∧ table.total ≤ lastPlace ∧ table.move 0 = table := by
  intro table
  have htwo : table.total = 2 := by
    simp [total, table, run, apply, update, rebuild, toEnd, services]
  have htotal : table.total ≤ lastPlace := by
    rw [htwo]
    decide
  obtain ⟨_, _, _, _, _, hmove⟩ :=
    what_ends_where_it_began_changes_nothing .pid false "" [.update services, .toEnd]
  exact ⟨htwo, htotal, hmove htotal⟩

end Table

end ProcessMonitor
