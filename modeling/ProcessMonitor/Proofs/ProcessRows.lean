-- The laws of the process list on the screen: the rows drawn are the rows of the
-- window, the marked one is the selected one, and the keys that come after the
-- frame act on the process that is marked.
import ProcessMonitor.Proofs.FrameParts
import ProcessMonitor.Proofs.Requests
import ProcessMonitor.Run.Loop

namespace ProcessMonitor

namespace Screen

/-! ## The mark -/

/-- The ground of the selected row, and of no other. -/
def mark : Stroke := .background .darkCyan

theorem count_mark_putPieces (room : Nat) (pieces : List (Colour × String)) :
    (putPieces room pieces).1.count mark = 0 := by
  induction pieces generalizing room with
  | nil => rfl
  | cons piece rest ih =>
    obtain ⟨colour, text⟩ := piece
    simp only [putPieces, List.count_cons, ih]
    rfl

theorem count_mark_processRow (y width : Nat) (selected : Bool) (p : ProcessSample) :
    (processRow y width selected p).count mark = if selected then 1 else 0 := by
  have hpieces := count_mark_putPieces width
    [((rowColours selected).2, rowStart p),
     (usageColour p.cpu, percentColumn p.cpu),
     (usageColour p.memory, percentColumn p.memory),
     ((rowColours selected).2, Text.truncate p.command (width - fixedColumnsWidth))]
  unfold processRow
  rw [List.count_cons, List.count_cons, List.count_append, hpieces]
  cases selected <;> simp [rowColours, mark]

theorem count_mark_blankRow (y width : Nat) : (blankRow y width).count mark = 0 := by
  simp [blankRow, mark]

/-! ## Rows and places -/

/-- What is drawn for a place of the view: the process there, in the row that is as
far below the top of the list as the place is below the top of the window. -/
def placeRow (layout : Layout) (table : Table) (place : Nat) : List Stroke :=
  match table.get? place with
  | none => []
  | some process =>
    processRow (layout.tableTop + (place - table.offset)) layout.width (place == table.selected)
      process

/-- The places of the view that the screen has rows for, in order. -/
def shownPlaces (layout : Layout) (table : Table) : List Nat :=
  List.range' table.offset (min layout.tableRows table.size)

/-- The rows below the last process that is drawn. -/
def rowsBelow (layout : Layout) (table : Table) : List Stroke :=
  let drawn := min layout.tableRows table.size
  (List.range (layout.tableRows - drawn)).flatMap fun line =>
    blankRow (layout.tableTop + (drawn + line)) layout.width

/-- A screen has rows for places of the view only. -/
theorem lt_size_of_mem_shownPlaces {layout : Layout} {table : Table} (h : table.Good)
    (hrows : layout.tableRows ≤ table.rows) {place : Nat}
    (hmem : place ∈ shownPlaces layout table) : place < table.size := by
  have hoffset := h.offset_le
  obtain ⟨line, hline, rfl⟩ := List.mem_range'.mp hmem
  omega

theorem getElem?_shownPlaces (layout : Layout) (table : Table) (line : Nat)
    (h : line < min layout.tableRows table.size) :
    (shownPlaces layout table)[line]? = some (table.offset + line) := by
  simp [shownPlaces, List.getElem?_range' h]

/-- The list draws the places that the screen has rows for, and blanks below them. -/
theorem processRows_eq (layout : Layout) (table : Table) (h : table.Good)
    (hrows : layout.tableRows ≤ table.rows) :
    processRows layout table =
      (shownPlaces layout table).flatMap (placeRow layout table) ++ rowsBelow layout table := by
  have hlength : (table.window.take layout.tableRows).length = min layout.tableRows table.size := by
    rw [List.length_take, Table.length_window h]
    omega
  have hdrawn : ((table.window.take layout.tableRows).zipIdx.map fun row =>
      processRow (layout.tableTop + row.2) layout.width (row.1.2 == table.selected) row.1.1) =
      (shownPlaces layout table).map (placeRow layout table) := by
    apply List.ext_getElem
    · simp [shownPlaces, hlength]
    · intro line hleft hright
      have hline : line < min layout.tableRows table.size := by
        simpa [shownPlaces] using hright
      have hplace := getElem?_shownPlaces layout table line hline
      have hlt := lt_size_of_mem_shownPlaces h hrows (List.mem_of_getElem? hplace)
      obtain ⟨process, hprocess⟩ := Table.get?_isSome table (table.offset + line) hlt
      have hwindow := Table.getElem?_window table line (by omega)
      rw [hprocess, Option.map_some, List.getElem?_eq_some_iff] at hwindow
      obtain ⟨_, hwindow⟩ := hwindow
      rw [List.getElem?_eq_some_iff] at hplace
      obtain ⟨_, hplace⟩ := hplace
      simp [hwindow, hplace, placeRow, hprocess]
  unfold processRows
  dsimp only
  rw [hlength, List.flatMap_def, hdrawn, ← List.flatMap_def]
  rfl

theorem placeRow_of_get? (layout : Layout) (table : Table) {place : Nat} {process : ProcessSample}
    (h : table.get? place = some process) :
    placeRow layout table place = processRow (layout.tableTop + (place - table.offset))
      layout.width (place == table.selected) process := by
  simp [placeRow, h]

theorem count_mark_placeRow (layout : Layout) (table : Table) (place : Nat)
    (h : place < table.size) :
    (placeRow layout table place).count mark = if place == table.selected then 1 else 0 := by
  obtain ⟨process, hprocess⟩ := Table.get?_isSome table place h
  rw [placeRow_of_get? layout table hprocess, count_mark_processRow]

theorem mark_mem_placeRow (layout : Layout) (table : Table) (place : Nat)
    (h : place < table.size) : mark ∈ placeRow layout table place ↔ place = table.selected := by
  rw [← List.count_pos_iff, count_mark_placeRow layout table place h]
  by_cases hs : place = table.selected <;> simp [hs]

/-- Rows are marked as often as the selected place is among them. -/
theorem count_mark_places (layout : Layout) (table : Table) (places : List Nat)
    (h : ∀ place ∈ places, place < table.size) :
    (places.flatMap (placeRow layout table)).count mark = places.count table.selected := by
  induction places with
  | nil => rfl
  | cons place rest ih =>
    have hrest := ih fun other hmem => h other (List.mem_cons_of_mem place hmem)
    rw [List.flatMap_cons, List.count_append, hrest, List.count_cons, Nat.add_comm,
      count_mark_placeRow layout table place (h place List.mem_cons_self)]

theorem count_mark_rowsBelow (layout : Layout) (table : Table) :
    (rowsBelow layout table).count mark = 0 := by
  unfold rowsBelow
  dsimp only
  rw [List.count_eq_zero]
  intro hmem
  obtain ⟨line, _, hline⟩ := List.mem_flatMap.mp hmem
  exact List.count_eq_zero.mp (count_mark_blankRow _ _) hline

theorem selected_mem_shownPlaces {layout : Layout} {table : Table} (h : table.Good)
    (hrows : layout.tableRows = table.rows) (hsize : 0 < table.size) :
    table.selected ∈ shownPlaces layout table := by
  have hlt := h.selected_lt hsize
  have habove := h.offset_le_selected
  have hbelow := h.selected_lt_window
  exact List.mem_range'.mpr ⟨table.selected - table.offset, by omega, by omega⟩

/-- A list with a process has one marked row if the screen has rows for all of the
window. -/
theorem count_mark_processRows {layout : Layout} {table : Table} (h : table.Good)
    (hrows : layout.tableRows = table.rows) (hsize : 0 < table.size) :
    (processRows layout table).count mark = 1 := by
  have hplaces := count_mark_places layout table (shownPlaces layout table)
    fun place hmem => lt_size_of_mem_shownPlaces h (Nat.le_of_eq hrows) hmem
  have honce : (shownPlaces layout table).Nodup := List.nodup_range'
  rw [processRows_eq layout table h (Nat.le_of_eq hrows), List.count_append, hplaces,
    count_mark_rowsBelow, List.count_eq_one_of_mem honce (selected_mem_shownPlaces h hrows hsize)]

/-- An empty list has no marked row. -/
theorem count_mark_of_size_eq_zero {layout : Layout} {table : Table} (hsize : table.size = 0) :
    (processRows layout table).count mark = 0 := by
  have hview : table.view = [] := List.length_eq_zero_iff.mp hsize
  have hrows : processRows layout table = rowsBelow layout table := by
    simp [processRows, rowsBelow, Table.window, Table.toList, hview, hsize]
  rw [hrows, count_mark_rowsBelow]

/-- The rows of the list lie on the screen. -/
theorem tableTop_add_lt (width height coreCount line : Nat)
    (h : line < (Layout.compute width height coreCount).tableRows) :
    (Layout.compute width height coreCount).tableTop + line < height := by
  have hrows : (Layout.compute width height coreCount).tableRows =
      height - (if height ≥ 3 then 2 else if height ≥ 2 then 1 else 0) -
        (Layout.compute width height coreCount).tableTop := rfl
  omega

end Screen

namespace Run

open Screen (Layout mark placeRow processRow processRows rowsBelow shownPlaces)

section Frames

variable {World Memory : Type} (outside : Outside World Memory) (world : World)
  (state : State Memory)

/-! ## The keys after a frame -/

/-- A kill key asks about this process, and a priority key moves its priority by one
step. -/
def KeysActOn (process : ProcessSample) : Prop :=
  ∀ key : Key,
    let handled := (handleKey outside world key state).1
    (key.Kills →
      handled.session.mode = .confirmKill process.pid process.command ∧
        handled.requests = state.requests) ∧
      (key.Raises → handled.requests = state.requests ++ [.renice process.pid 1]) ∧
      (key.Lowers → handled.requests = state.requests ++ [.renice process.pid (-1)])

/-- Neither a kill key nor a priority key asks anything. -/
def KeysActOnNothing : Prop :=
  ∀ key : Key, key.Kills ∨ key.Raises ∨ key.Lowers →
    let handled := (handleKey outside world key state).1
    handled.session.mode = .normal ∧ handled.requests = state.requests

theorem keysActOn_selected (hmode : state.session.mode = .normal) {process : ProcessSample}
    (hs : state.session.table.selected? = some process) :
    KeysActOn outside world state process := by
  intro key
  refine ⟨?_, ?_, ?_⟩
  · intro hkey
    rw [handleKey, Session.press_of_kills _ _ key hmode hkey]
    simp [Session.requestKill, hs, Session.step]
  · intro hkey
    rw [handleKey, Session.press_of_raises _ _ key hmode hkey]
    simp [Session.raisePriority, Session.requests_renice, hs, Session.reniceStep]
  · intro hkey
    rw [handleKey, Session.press_of_lowers _ _ key hmode hkey]
    simp [Session.lowerPriority, Session.requests_renice, hs, Session.reniceStep]

theorem keysActOnNothing (hmode : state.session.mode = .normal)
    (hs : state.session.table.selected? = none) : KeysActOnNothing outside world state := by
  rintro key (hkey | hkey | hkey)
  · rw [handleKey, Session.press_of_kills _ _ key hmode hkey]
    simp [Session.requestKill, hs, Session.step, hmode]
  · rw [handleKey, Session.press_of_raises _ _ key hmode hkey]
    simp [Session.raisePriority, Session.renice, hs, hmode]
  · rw [handleKey, Session.press_of_lowers _ _ key hmode hkey]
    simp [Session.lowerPriority, Session.renice, hs, hmode]

/-! ## The laws -/

/-- A frame of any size after any happenings. The list draws the places of the window
in order, each in its row of the screen, and blanks below them. If the list has a
process and the screen a row for it, then one row is marked, it is drawn from the
selected process, and over the list a kill key right after the frame asks about this
process and a priority key moves its priority. If the list is empty, then no row is
marked and none of these keys asks anything. -/
theorem the_marked_row_is_what_the_keys_act_on (column : SortColumn) (descending : Bool)
    (filter : String) (interval : Nat) (past : List Happening) (memory : Memory)
    (lastPass : Nat) (asked : List Request) (width height : Nat) (clock : String) :
    let session := ((Session.start column descending filter interval).run past).session
    let layout := Layout.compute width height session.history.cores.length
    let prepared := prepareFrame (width, height) clock ⟨session, memory, lastPass, asked⟩
    let table := prepared.1.session.table
    table = session.table.setRows layout.tableRows ∧
      processRows layout table <:+: prepared.2 ∧
      (table.isEmpty = false → 1 ≤ layout.tableRows →
        ∃ process, table.selected? = some process ∧
          (processRows layout table).count mark = 1 ∧
          processRows layout table =
            (shownPlaces layout table).flatMap (placeRow layout table) ++ rowsBelow layout table ∧
          (rowsBelow layout table).count mark = 0 ∧
          table.selected ∈ shownPlaces layout table ∧
          placeRow layout table table.selected =
            processRow (layout.tableTop + (table.selected - table.offset)) width true process ∧
          (∀ place ∈ shownPlaces layout table, ∃ neighbour,
            table.get? place = some neighbour ∧
            placeRow layout table place =
              processRow (layout.tableTop + (place - table.offset)) width
                (place == table.selected) neighbour ∧
            (mark ∈ placeRow layout table place ↔ place = table.selected) ∧
            layout.tableTop + (place - table.offset) < height) ∧
          (session.mode = .normal → KeysActOn outside world prepared.1 process)) ∧
      (table.isEmpty = true →
        (processRows layout table).count mark = 0 ∧
          (session.mode = .normal → KeysActOnNothing outside world prepared.1)) := by
  intro session layout prepared table
  have htable : table = session.table.setRows layout.tableRows := rfl
  -- Setting the rows settles the list, so the invariant holds whatever the state was.
  have hgood : table.Good := Table.good_settle _ (Nat.le_max_right _ 1)
  have hrows : table.rows = max layout.tableRows 1 := Table.settle_rows _
  refine ⟨htable, Screen.processRows_infix_frame _ layout clock, ?_, ?_⟩
  · intro hfull hroom
    have hsize : 0 < table.size := by
      rw [Nat.pos_iff_ne_zero, Ne, ← Table.isEmpty_iff, hfull]
      simp
    -- With a row on the screen the window is as high as the list that is drawn.
    have hrows' : layout.tableRows = table.rows := by omega
    have hle := Nat.le_of_eq hrows'
    obtain ⟨process, hs⟩ := Table.get?_isSome table table.selected (hgood.selected_lt hsize)
    refine ⟨process, hs, Screen.count_mark_processRows hgood hrows' hsize,
      Screen.processRows_eq layout table hgood hle, Screen.count_mark_rowsBelow layout table,
      Screen.selected_mem_shownPlaces hgood hrows' hsize, ?_, ?_, ?_⟩
    · rw [Screen.placeRow_of_get? layout table hs, beq_self_eq_true]
      rfl
    · intro place hmem
      have hlt := Screen.lt_size_of_mem_shownPlaces hgood hle hmem
      obtain ⟨neighbour, hn⟩ := Table.get?_isSome table place hlt
      refine ⟨neighbour, hn, Screen.placeRow_of_get? layout table hn,
        Screen.mark_mem_placeRow layout table place hlt, ?_⟩
      obtain ⟨line, hline, rfl⟩ := List.mem_range'.mp hmem
      apply Screen.tableTop_add_lt
      show table.offset + 1 * line - table.offset < layout.tableRows
      omega
    · intro hmode
      exact keysActOn_selected outside world prepared.1 hmode hs
  · intro hempty
    have hsize := (Table.isEmpty_iff table).mp hempty
    refine ⟨Screen.count_mark_of_size_eq_zero hsize, ?_⟩
    intro hmode
    exact keysActOnNothing outside world prepared.1 hmode (Table.selected?_eq_none hsize)

end Frames

end Run

end ProcessMonitor
