-- The laws of moving the selection. A selection that is asked for past the end of the list, or
-- past what a 64-bit number can tell, comes to the first or the last row all the same. So each
-- move ends at the row where exact numbers would end.
import ProcessMonitor.Proofs.TableFilter
import ProcessMonitor.Proofs.TableWindow

namespace ProcessMonitor.Table

/-- The list with the row selected that is the nearest to a place, and with its window moved to
that row. -/
def selecting (table : Table) (place : Int) : Table :=
  let selected := (max 0 (min place (table.size - 1))).toNat
  { table with selected, offset := settledOffset table.size table.rows selected table.offset }

/-- Places past the same end of the list select the same row. -/
theorem selecting_congr {table : Table} {place other : Int}
    (h : max 0 (min place (table.size - 1 : Int)) = max 0 (min other (table.size - 1 : Int))) :
    table.selecting place = table.selecting other := by
  unfold selecting
  rw [h]

section Moves

variable {table : Table} (h : table.Good) (hpos : 0 < table.size)

include h hpos

/-- Settling brings a selection that was asked for to the nearest row. -/
theorem settle_eq_selecting (place : Nat) :
    settle { table with selected := place } = table.selecting place := by
  have hrow : min place (table.size - 1) = (max 0 (min (place : Int) (table.size - 1))).toNat := by
    omega
  have hsettled := @settle_of_size_pos { table with selected := place } h.rows_pos hpos
  unfold selecting
  rw [← hrow]
  exact hsettled

theorem toStart_eq_selecting : table.toStart = table.selecting 0 :=
  settle_eq_selecting h hpos 0

theorem toEnd_eq_selecting : table.toEnd = table.selecting (table.size - 1) := by
  have hlast : ((table.size - 1 : Nat) : Int) = table.size - 1 := by omega
  rw [← hlast]
  exact settle_eq_selecting h hpos _

variable (hsize : table.size ≤ lastStep)

include hsize

/-- The place that is asked for is cut off at zero and at the largest place, and both are past an
end of the list. -/
theorem move_eq_selecting (delta : Int) :
    table.move delta = table.selecting (table.selected + delta) := by
  unfold lastStep at hsize
  unfold move
  rw [settle_eq_selecting h hpos]
  apply selecting_congr
  unfold lastPlace
  omega

/-- So is a number of rows that is cut off. -/
theorem page_eq_selecting (hrows : table.rows ≤ lastStep) (pages : Int) :
    table.page pages = table.selecting (table.selected + pages * table.rows) := by
  have hheight : Int.bmod (max table.rows 1 : Nat) (lastPlace + 1) = table.rows := by
    unfold lastStep at hrows
    rw [Nat.max_eq_left h.rows_pos, Int.bmod_def, lastPlace]
    split <;> omega
  have hselected := h.selected_lt hpos
  unfold page
  rw [hheight, move_eq_selecting h hpos hsize]
  apply selecting_congr
  generalize pages * (table.rows : Int) = step
  unfold lastStep at hsize
  unfold limitStep lastStep
  omega

end Moves

/-! ## The laws -/

/-- After any operations that leave rows in the list, fewer than 2^63 of them, under a window that
is lower than that: to move by any number of rows, to page by any number of windows, and to jump to
an end select the row that is nearest to the exact place, and the window moves to that row. Nothing
else changes. -/
theorem the_selection_moves_by_exact_numbers (column : SortColumn) (descending : Bool)
    (filter : String) (operations : List Operation) :
    let table := (empty column descending filter).run operations
    table.isEmpty = false → table.size ≤ lastStep → table.rows ≤ lastStep →
      (∀ delta, table.move delta = table.selecting (table.selected + delta)) ∧
        (∀ pages, table.page pages = table.selecting (table.selected + pages * table.rows)) ∧
        table.toStart = table.selecting 0 ∧ table.toEnd = table.selecting (table.size - 1) := by
  intro table hfull hsize hrows
  have hgood : table.Good := good_run (good_empty column descending filter) operations
  have hpos : 0 < table.size := size_pos_of_isEmpty_eq_false hfull
  refine ⟨?_, ?_, ?_, ?_⟩
  · intro delta
    exact move_eq_selecting hgood hpos hsize delta
  · intro pages
    exact page_eq_selecting hgood hpos hsize hrows pages
  · exact toStart_eq_selecting hgood hpos
  · exact toEnd_eq_selecting hgood hpos

/-- In the list of two processes under the largest window, the largest steps up and down. -/
theorem the_largest_steps_end_at_the_ends :
    let table := (empty .pid false "").run [.update services, .setRows 65535]
    table.isEmpty = false ∧ table.size ≤ lastStep ∧ table.rows ≤ lastStep ∧
      (table.page lastStep).selected = 1 ∧ (table.page (-lastStep - 1)).selected = 0 := by
  intro table
  have hsize : table.size = 2 := by
    unfold size
    simp only [table, run, List.foldl_cons, List.foldl_nil, apply, setRows, update, rebuild,
      settle_view, length_viewOf]
    decide
  have hrows : table.rows = 65535 := by
    simp only [table, run, List.foldl_cons, List.foldl_nil, apply, setRows, settle_rows]
    decide
  have hfull : table.isEmpty = false := by
    rw [Bool.eq_false_iff, Ne, isEmpty_iff, hsize]
    decide
  have hcount : table.size ≤ lastStep := by
    rw [hsize]
    decide
  have hheight : table.rows ≤ lastStep := by
    rw [hrows]
    decide
  have hselected : table.selected < table.size := by
    apply (good_run (good_empty .pid false "") [.update services, .setRows 65535]).selected_lt
    rw [hsize]
    decide
  have hpage (pages : Int) :
      table.page pages = table.selecting (table.selected + pages * table.rows) :=
    (the_selection_moves_by_exact_numbers .pid false "" [.update services, .setRows 65535]
      hfull hcount hheight).2.1 pages
  refine ⟨hfull, hcount, hheight, ?_, ?_⟩
  · rw [hpage, hrows, selecting, hsize, lastStep]
    dsimp only
    omega
  · rw [hpage, hrows, selecting, hsize, lastStep]
    dsimp only
    omega

end ProcessMonitor.Table
