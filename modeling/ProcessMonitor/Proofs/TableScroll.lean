-- The laws of scrolling. The window stands where it stood unless it would lose the
-- selected row or leave a blank line, and then it goes to the nearest place where it
-- does neither.
import Mathlib.Data.Nat.Dist
import ProcessMonitor.Proofs.TableWindow

namespace ProcessMonitor.Table

/-! ## Places for the window -/

/-- A window at this offset shows the selected row, and no blank line while rows above
it could fill it. -/
structure Shows (table : Table) (offset : Nat) : Prop where
  le_selected : offset ≤ table.selected
  selected_lt : table.selected < offset + table.rows
  le_last : offset ≤ table.size - table.rows

theorem Good.shows {table : Table} (h : table.Good) : table.Shows table.offset :=
  ⟨h.offset_le_selected, h.selected_lt_window, h.offset_le⟩

/-- The steps of settling together bring the offset between the lowest place, where the
selected row is the last of the window, and the highest, where it is the first or the
list ends with the window. -/
theorem settledOffset_eq_between (size rows selected offset : Nat) (h : 1 ≤ rows)
    (hs : selected < size) :
    settledOffset size rows selected offset =
      max (selected + 1 - rows) (min offset (min selected (size - rows))) := by
  unfold settledOffset
  dsimp only
  split
  · omega
  · split <;> omega

theorem settledOffset_settledOffset (size rows selected offset : Nat) (h : 1 ≤ rows)
    (hs : selected < size) :
    settledOffset size rows selected (settledOffset size rows selected offset) =
      settledOffset size rows selected offset := by
  simp only [settledOffset_eq_between size rows selected _ h hs]
  omega

/-- Any other place for the window is farther from where it stood. -/
theorem dist_settledOffset_lt {table : Table} (hrows : 1 ≤ table.rows)
    (hs : table.selected < table.size) (offset : Nat) {other : Nat} (h : table.Shows other)
    (hne : other ≠ settledOffset table.size table.rows table.selected offset) :
    Nat.dist offset (settledOffset table.size table.rows table.selected offset) <
      Nat.dist offset other := by
  rw [settledOffset_eq_between _ _ _ offset hrows hs] at hne ⊢
  have hlow : table.selected + 1 - table.rows ≤ other := by
    have := h.selected_lt
    omega
  have hhigh : other ≤ min table.selected (table.size - table.rows) :=
    Nat.le_min.mpr ⟨h.le_selected, h.le_last⟩
  unfold Nat.dist
  omega

/-! ## Settling -/

theorem settle_settle (table : Table) : table.settle.settle = table.settle := by
  by_cases hempty : table.view.isEmpty
  · simp [settle, hempty]
  · have hpos : 0 < table.view.length := by simpa [List.length_pos_iff] using hempty
    have hlast : min (min table.selected (table.view.length - 1)) (table.view.length - 1) =
        min table.selected (table.view.length - 1) := by omega
    have hoffset := settledOffset_settledOffset table.view.length (max table.rows 1)
      (min table.selected (table.view.length - 1)) table.offset (Nat.le_max_right _ _) (by omega)
    simp only [settle, hempty, size, hlast, hoffset, Bool.false_eq_true, if_false]

theorem offset_settle {table : Table} (hrows : 1 ≤ table.rows) (hpos : 0 < table.size) :
    table.settle.offset = settledOffset table.settle.size table.settle.rows table.settle.selected
      table.offset := by
  rw [settle_size, settle_rows, settle_of_size_pos hrows hpos]

/-! ## The laws -/

/-- After any operations, one more that leaves rows in the list moves the window only as
far as it takes: to the one place, of all where it shows the selected row and no
needless blank line, that is nearest to where it stood. Where it stood is that place
when it still does so there. Settling a list that is settled changes nothing. -/
theorem the_window_moves_no_farther_than_it_has_to (column : SortColumn) (descending : Bool)
    (filter : String) (operations : List Operation) (op : Operation) :
    let table := (empty column descending filter).run operations
    let after := table.apply op
    (after.isEmpty = false →
      after.Shows after.offset ∧
        (∀ other, after.Shows other → other ≠ after.offset →
          Nat.dist table.offset after.offset < Nat.dist table.offset other) ∧
        (after.Shows table.offset → after.offset = table.offset)) ∧
      after.settle = after ∧ ∀ any : Table, any.settle.settle = any.settle := by
  intro table after
  have hgood : table.Good := good_run (good_empty column descending filter) operations
  have hafter : after.Good := good_apply op hgood
  obtain ⟨before, he, hrows, _, hstood⟩ := apply_eq_settle table op
  change after = before.settle at he
  refine ⟨?_, by rw [he, settle_settle], settle_settle⟩
  intro hfull
  have hpos : 0 < after.size := size_pos_of_isEmpty_eq_false hfull
  have hoffset : after.offset =
      settledOffset after.size after.rows after.selected table.offset := by
    rw [he, ← hstood]
    exact offset_settle (hrows hgood.rows_pos) (by rwa [he, settle_size] at hpos)
  have hnearest : ∀ other, after.Shows other → other ≠ after.offset →
      Nat.dist table.offset after.offset < Nat.dist table.offset other := by
    intro other hother hne
    rw [hoffset] at hne ⊢
    exact dist_settledOffset_lt hafter.rows_pos (hafter.selected_lt hpos) table.offset hother hne
  refine ⟨hafter.shows, hnearest, ?_⟩
  intro hstays
  by_contra hne
  have hlt := hnearest table.offset hstays fun heq => hne heq.symm
  rw [Nat.dist_self] at hlt
  exact Nat.not_lt_zero _ hlt

end ProcessMonitor.Table
