-- The laws of the selection and the window: both keep the invariant `Good` after
-- every operation, so the selected row always stands in the window, and the
-- window always stands in the list.
import ProcessMonitor.Proofs.TableView

namespace ProcessMonitor.Table

/-! ## The settled window -/

theorem settledOffset_le_selected (size rows selected offset : Nat) (h : 1 ≤ rows) :
    settledOffset size rows selected offset ≤ selected := by
  unfold settledOffset
  apply Nat.le_trans (Nat.min_le_left _ _)
  split
  · exact Nat.le_refl _
  · split <;> omega

/-- The last step pulls the window back over the end of the list, and the selected
row is still in it, as it is a row of the list. -/
theorem selected_lt_settledOffset (size rows selected offset : Nat) (h : 1 ≤ rows)
    (hs : selected < size) : selected < settledOffset size rows selected offset + rows := by
  unfold settledOffset
  dsimp only
  rcases Nat.le_total size rows with hle | hle
  · omega
  · rw [← Nat.add_min_add_right, Nat.lt_min]
    constructor
    · split
      · omega
      · split <;> omega
    · omega

theorem settledOffset_le (size rows selected offset : Nat) :
    settledOffset size rows selected offset ≤ size - rows := Nat.min_le_right _ _

/-- The invariant of the selection and the window. -/
structure Good (table : Table) : Prop where
  rows_pos : 1 ≤ table.rows
  /-- An empty list has its selection and its window at the start. -/
  at_start : table.size = 0 → table.selected = 0 ∧ table.offset = 0
  selected_lt : 0 < table.size → table.selected < table.size
  offset_le_selected : table.offset ≤ table.selected
  selected_lt_window : table.selected < table.offset + table.rows
  /-- No row of the window is blank while rows above it could fill it. -/
  offset_le : table.offset ≤ table.size - table.rows

theorem good_empty (column : SortColumn) (descending : Bool) (filter : String) :
    (empty column descending filter).Good := by
  constructor <;> simp [empty, size]

theorem settle_of_size_eq_zero {table : Table} (h : table.size = 0) :
    table.settle = { table with selected := 0, offset := 0 } := by
  have hview : table.view = [] := List.length_eq_zero_iff.mp h
  simp [settle, hview]

theorem settle_of_size_pos {table : Table} (hrows : 1 ≤ table.rows) (hpos : 0 < table.size) :
    table.settle = { table with
      selected := min table.selected (table.size - 1)
      offset := settledOffset table.size table.rows (min table.selected (table.size - 1))
        table.offset } := by
  have hview : table.view ≠ [] := List.length_pos_iff.mp hpos
  simp [settle, hview, Nat.max_eq_left hrows]

/-- Settling establishes the invariant, whatever the selection and the window were
before. -/
theorem good_settle (table : Table) (h : 1 ≤ table.rows) : table.settle.Good := by
  rcases Nat.eq_zero_or_pos table.size with hsize | hpos
  · rw [settle_of_size_eq_zero hsize]
    refine ⟨h, fun _ => ⟨rfl, rfl⟩, fun hpos => absurd hsize (Nat.ne_of_gt hpos), Nat.le_refl _, ?_,
      Nat.zero_le _⟩
    show 0 < 0 + table.rows
    omega
  · have hlt : min table.selected (table.size - 1) < table.size := by omega
    rw [settle_of_size_pos h hpos]
    refine ⟨h, fun hzero => absurd hzero (Nat.ne_of_gt hpos), fun _ => hlt, ?_, ?_, ?_⟩
    · exact settledOffset_le_selected _ _ _ _ h
    · exact selected_lt_settledOffset _ _ _ _ h hlt
    · exact settledOffset_le _ _ _ _

theorem good_apply {table : Table} (op : Operation) (h : table.Good) : (table.apply op).Good := by
  obtain ⟨before, he, hrows, _⟩ := apply_eq_settle table op
  rw [he]
  exact good_settle before (hrows h.rows_pos)

theorem good_run {table : Table} (h : table.Good) (operations : List Operation) :
    (table.run operations).Good :=
  run_induction h (fun _ op ht => good_apply op ht) operations

/-! ## What the window shows -/

/-- A row of the window is the row of the view at the same distance from the
offset. -/
theorem getElem?_window (table : Table) (line : Nat) (h : line < table.rows) :
    table.window[line]? =
      (table.get? (table.offset + line)).map fun sample => (sample, table.offset + line) := by
  simp [window, toList, get?, h, List.getElem?_drop, List.getElem?_zipIdx]

theorem length_window {table : Table} (h : table.Good) :
    table.window.length = min table.rows table.size := by
  have := h.offset_le
  simp only [window, toList, List.length_take, List.length_drop, List.length_zipIdx,
    List.length_map]
  unfold size at *
  omega

theorem get?_isSome (table : Table) (place : Nat) (h : place < table.size) :
    ∃ sample, table.get? place = some sample := by
  unfold size at h
  exact ⟨table.view[place].1, by simp [get?, h]⟩

theorem selected?_eq_none {table : Table} (h : table.size = 0) : table.selected? = none := by
  have hview : table.view = [] := List.length_eq_zero_iff.mp h
  simp [selected?, get?, hview]

theorem isEmpty_iff (table : Table) : table.isEmpty = true ↔ table.size = 0 := by
  simp [isEmpty, size]

theorem size_pos_of_isEmpty_eq_false {table : Table} (h : table.isEmpty = false) :
    0 < table.size := by
  rw [Nat.pos_iff_ne_zero, Ne, ← isEmpty_iff, h]
  exact Bool.false_ne_true

/-- The selected row stands in the window. -/
theorem selected_mem_window {table : Table} (h : table.Good) {sample : ProcessSample}
    (hs : table.selected? = some sample) : (sample, table.selected) ∈ table.window := by
  have h1 := h.offset_le_selected
  have h2 := h.selected_lt_window
  have hline := getElem?_window table (table.selected - table.offset) (by omega)
  rw [Nat.add_sub_cancel' h1] at hline
  unfold selected? at hs
  rw [hs] at hline
  exact List.mem_of_getElem? hline

theorem size_le_total {table : Table} (h : table.Derived) : table.size ≤ table.total := by
  unfold size total
  rw [h, viewOf, List.length_mergeSort]
  exact Nat.le_trans (List.length_filter_le _ _) (by simp)

/-! ## The laws -/

/-- After any operations, with any arguments: the window has a row, and the view
holds distinct places of the samples, each with its sample. An empty view has its
selection and its window at the start, and no process is selected. Otherwise the
selected row is a row of the view and of the window, no row of the window is
blank while the list could fill it, and the window shows as many rows as it can,
one below the other as in the view. -/
theorem the_selection_stays_in_the_window (column : SortColumn) (descending : Bool)
    (filter : String) (operations : List Operation) :
    let table := (empty column descending filter).run operations
    1 ≤ table.rows ∧
      (table.view.map Prod.snd).Nodup ∧
      (∀ row ∈ table.view, table.samples[row.2]? = some row.1) ∧
      table.size ≤ table.total ∧
      (table.isEmpty = true →
        table.selected = 0 ∧ table.offset = 0 ∧ table.selected? = none) ∧
      (table.isEmpty = false →
        table.selected < table.size ∧
        table.offset ≤ table.selected ∧ table.selected < table.offset + table.rows ∧
        table.offset ≤ table.size - min table.size table.rows ∧
        (∃ sample, table.selected? = some sample ∧ (sample, table.selected) ∈ table.window) ∧
        table.window.length = min table.rows table.size ∧
        ∀ line < table.window.length, ∃ sample,
          table.get? (table.offset + line) = some sample ∧
            table.window[line]? = some (sample, table.offset + line)) := by
  intro table
  have hgood : table.Good := good_run (good_empty column descending filter) operations
  have hderived : table.Derived := derived_run (derived_empty column descending filter) operations
  have hview := canonical_run column descending filter operations
  refine ⟨hgood.rows_pos, hview.once, fun row hrow => ((hview.mem_iff row).mp hrow).1,
    size_le_total hderived, ?_, ?_⟩
  · intro hempty
    have hzero := (isEmpty_iff table).mp hempty
    exact ⟨(hgood.at_start hzero).1, (hgood.at_start hzero).2, selected?_eq_none hzero⟩
  · intro hfull
    have hpos : 0 < table.size := by
      rw [Nat.pos_iff_ne_zero, Ne, ← isEmpty_iff, hfull]
      simp
    have hlength := length_window hgood
    refine ⟨hgood.selected_lt hpos, hgood.offset_le_selected, hgood.selected_lt_window, ?_, ?_,
      hlength, ?_⟩
    · have := hgood.offset_le
      omega
    · obtain ⟨sample, hs⟩ := get?_isSome table table.selected (hgood.selected_lt hpos)
      exact ⟨sample, hs, selected_mem_window hgood hs⟩
    · intro line hline
      have hoffset := hgood.offset_le
      obtain ⟨sample, hs⟩ := get?_isSome table (table.offset + line) (by omega)
      refine ⟨sample, hs, ?_⟩
      rw [getElem?_window table line (by omega), hs]
      rfl

end ProcessMonitor.Table
