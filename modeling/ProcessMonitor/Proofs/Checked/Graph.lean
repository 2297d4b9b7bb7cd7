-- Graphs with every sample, block and blank checked. The samples come out of the cells
-- of a ring, a bar out of the blocks, and what a gauge leaves blank out of its width.
import ProcessMonitor.Proofs.Checked.Text
import ProcessMonitor.Proofs.FilledCells
import ProcessMonitor.Proofs.FrameParts
import ProcessMonitor.Proofs.RingSamples

namespace ProcessMonitor.Checked

open Screen (Colour Stroke GraphArea CoreArea)

/-! ## Samples -/

/-- All samples of a ring, oldest first. -/
def samples (ring : Ring) : Checked (List Double) := do
  let past ← minus (ring.head + ring.capacity) ring.size
  let start ← remainder past ring.capacity
  part ring.cells.toList start (start + ring.size)

/-- The newest samples that fit into `width` columns, oldest first. -/
def newest (samples : List Double) (width : Nat) : Checked (List Double) :=
  partFrom samples (samples.length - width)

def last (ring : Ring) (n : Nat) : Checked (List Double) := do
  let all ← samples ring
  newest all n

/-! ## Histories -/

def columnLevels (samples : List Double) (width height : Nat) : Checked (List Nat) := do
  let window ← newest samples width
  let top := Screen.peak window
  let full := Double.ofNat (height * Screen.fullCell)
  let blank ← minus width window.length
  pure (List.replicate blank 0 ++ window.map (Screen.level top full))

def cell (level row : Nat) : Checked Char :=
  item Screen.blocks (min (level - row * Screen.fullCell) Screen.fullCell)

/-- The colour of a column: by its sample, from the column `first` on. -/
def columnColour (window : List Double) (first column : Nat) : Checked Colour :=
  if first ≤ column then do
    let sample ← item window (column - first)
    pure (Screen.usageColour sample)
  else pure .unset

/-- One line of the bars, `row` rows above the bottom. -/
def lineCells (levels : List Nat) (window : List Double) (first row : Nat) :
    Checked (List (Colour × Char)) :=
  levels.zipIdx.mapM fun (level, column) => do
    let colour ← columnColour window first column
    let c ← cell level row
    pure (colour, c)

/-- The bars of a history, with the left upper corner at column `x` of row `y`. -/
def history (x y width : Nat) (samples : List Double) : Checked (List Stroke) :=
  if width == 0 then pure []
  else do
    let levels ← columnLevels samples width Screen.graphHeight
    let first ← minus width (min samples.length width)
    let window ← newest samples width
    drawAll (List.range Screen.graphHeight) fun line => do
      let below ← minus Screen.graphHeight 1
      let row ← minus below line
      let cells ← lineCells levels window first row
      pure (Screen.historyLine x (y + line) cells)

/-! ## Gauges -/

def gauge (percent : Double) (width : Nat) : Checked String :=
  if width < 2 then do
    let filled := Screen.filledCells percent width
    let blank ← minus width filled
    pure (Text.copies filled '|' ++ Text.spaces blank)
  else do
    let inner ← minus width 2
    let filled := Screen.filledCells percent inner
    let blank ← minus inner filled
    pure ("[" ++ Text.copies filled '|' ++ Text.spaces blank ++ "]")

def panelTitle (x y width : Nat) (label : String) (percent : Double) (detail : String) :
    Checked (List Stroke) := do
  let label := " " ++ Text.padRight 4 label
  let detail := " " ++ detail ++ " "
  let bar ← gauge percent (width - (label.length + detail.length))
  let (pieces, room) ← putPieces width
    [(.cyan, label), (Screen.usageColour percent, bar), (.white, detail)]
  pure (.moveTo x y :: (pieces ++ [.print (Text.spaces room), .plain]))

def panel (x y width : Nat) (label : String) (percent : Double) (detail : String) (ring : Ring) :
    Checked (List Stroke) := do
  let title ← panelTitle x y width label percent detail
  let shown ← samples ring
  let bars ← history x (y + 1) width shown
  pure (title ++ bars)

/-- Where the graph of the memory stands, and the widths of both. -/
def panelPlaces (area : GraphArea) (width : Nat) : Checked ((Nat × Nat) × Nat × Nat) :=
  if area.sideBySide then do
    let left := width / 2
    let right ← minus width left
    pure ((left, area.top), left, right)
  else pure ((0, area.top + Screen.panelRows), width, width)

def graphs (area : GraphArea) (width : Nat) (s : Session) : Checked (List Stroke) := do
  let m := s.metrics
  let ((memoryX, memoryY), cpuWidth, memoryWidth) ← panelPlaces area width
  let cpu ← panel 0 area.top cpuWidth "CPU" m.cpu (Text.padLeft 5 (m.cpu.fixed 1) ++ "%")
    s.history.cpu
  let memory ← panel memoryX memoryY memoryWidth "Mem" m.memory (Screen.memoryDetail m)
    s.history.memory
  pure (cpu ++ memory)

/-! ## Processors -/

def sparkline (samples : List Double) (length : Nat) : Checked String := do
  let window ← newest samples length
  let blank ← minus length window.length
  let marks ← window.mapM fun value => item Screen.blocks (Screen.sparkLevel value)
  pure (Text.spaces blank ++ String.ofList marks)

def coreCell (core : Nat) (ring : Ring) (percent : Double) : Checked (Colour × String) := do
  let shown ← last ring Screen.sparklineLength
  let spark ← sparkline shown Screen.sparklineLength
  let text ← fit (Text.padLeft 3 (toString core) ++ " " ++ spark ++ " "
    ++ Text.padLeft 3 (percent.fixed 0) ++ "%") Screen.coreCellWidth
  pure (Screen.usageColour percent, text)

def coreCells (area : CoreArea) (width : Nat) (rings : List Ring) (percents : List Double) :
    Checked (List Stroke) :=
  drawAll (List.range area.rows) fun line => do
    let first := line * area.cellsPerRow
    let last := min (first + area.cellsPerRow) rings.length
    let cells ← (List.range' first (last - first)).mapM fun core => do
      let ring ← item rings core
      coreCell core ring (percents.getD core zeroPercent)
    let (pieces, room) ← putPieces width cells
    pure (.moveTo 0 (area.top + line) :: (pieces ++ [.plain, .print (Text.spaces room)]))

/-! ## No graph goes astray -/

theorem samples_eq {ring : Ring} (h : ring.Good) : samples ring = pure ring.toList := by
  have hpast : ring.size ≤ ring.head + ring.capacity :=
    Nat.le_trans h.size_le (Nat.le_add_left _ _)
  have hend : ring.start + ring.size ≤ ring.cells.toList.length := by
    have hstart := Ring.start_eq h
    have hhead := h.head_lt
    have hsize := h.size_le
    rw [Array.length_toList, h.size_cells]
    split at hstart <;> omega
  have hpart := part_of_le (Nat.le_add_right ring.start ring.size) hend
  simp only [samples, minus_of_le hpast, remainder_of_pos h.capacity_pos, pure_bind]
  rw [← Ring.start, hpart, Ring.toList, Array.toList_extract, List.drop_take]

@[simp] theorem newest_eq (samples : List Double) (width : Nat) :
    newest samples width = pure (Screen.newest samples width) :=
  partFrom_of_le (Nat.sub_le _ _)

theorem last_eq {ring : Ring} (h : ring.Good) (n : Nat) : last ring n = pure (ring.last n) := by
  simp only [last, samples_eq h, pure_bind, newest_eq]
  rfl

@[simp] theorem columnLevels_eq (samples : List Double) (width height : Nat) :
    columnLevels samples width height = pure (Screen.columnLevels samples width height) := by
  simp only [columnLevels, newest_eq, pure_bind, minus_of_le (Screen.length_newest samples width)]
  rfl

/-- A full cell is the highest block. -/
theorem item_blocks {eighths : Nat} (h : eighths ≤ Screen.fullCell) :
    item Screen.blocks eighths = pure (Screen.block eighths) := by
  have hlt : eighths < Screen.blocks.length := Nat.lt_succ_of_le h
  refine item_of_getElem? ?_
  rw [Screen.block, List.getD_eq_getElem?_getD, List.getElem?_eq_getElem hlt]
  rfl

@[simp] theorem cell_eq (level row : Nat) : cell level row = pure (Screen.cell level row) :=
  item_blocks (Nat.min_le_right _ _)

/-- The colours of all columns, one by one. -/
theorem columnColour_eq (samples : List Double) (width : Nat) {column : Nat} (h : column < width) :
    columnColour (Screen.newest samples width) (width - min samples.length width) column =
      pure ((Screen.columnColours samples width).getD column .unset) := by
  have hlength : (Screen.newest samples width).length = min samples.length width := by
    rw [Screen.newest, List.length_drop]
    omega
  simp only [columnColour, Screen.columnColours, hlength, List.getD_eq_getElem?_getD]
  split
  · rename_i hfirst
    have hplace : column - (width - min samples.length width) <
        (Screen.newest samples width).length := by omega
    rw [item_of_getElem? (List.getElem?_eq_getElem hplace), pure_bind,
      List.getElem?_append_right (by rwa [List.length_replicate]), List.length_replicate,
      List.getElem?_map, List.getElem?_eq_getElem hplace, Option.map_some, Option.getD_some]
  · rename_i hfirst
    have hblank : column < width - min samples.length width := by omega
    rw [List.getElem?_append_left (by rwa [List.length_replicate]),
      List.getElem?_replicate_of_lt hblank, Option.getD_some]

/-- Columns numbered from 0 and coloured by their number are columns beside their colours. -/
theorem map_zipIdx_getD {levels : List Nat} {colours : List Colour}
    (h : colours.length = levels.length) (draw : Nat → Char) :
    (levels.zipIdx.map fun entry => (colours.getD entry.2 .unset, draw entry.1)) =
      colours.zip (levels.map draw) := by
  refine List.ext_getElem (by simp [h]) fun place hplace _ => ?_
  have hlevel : place < levels.length := by simpa using hplace
  simp [h, hlevel]

theorem lineCells_eq (samples : List Double) (width row : Nat) :
    lineCells (Screen.columnLevels samples width Screen.graphHeight)
        (Screen.newest samples width) (width - min samples.length width) row =
      pure ((Screen.columnColours samples width).zip
        ((Screen.columnLevels samples width Screen.graphHeight).map (Screen.cell · row))) := by
  have hlength : (Screen.columnColours samples width).length =
      (Screen.columnLevels samples width Screen.graphHeight).length := by
    rw [Screen.length_columnColours, Screen.length_columnLevels]
  rw [← map_zipIdx_getD hlength]
  refine mapM_eq_pure fun entry hentry => ?_
  have hcolumn : entry.2 < width := by
    have hplace := List.snd_lt_of_mem_zipIdx hentry
    rwa [Screen.length_columnLevels] at hplace
  simp only [columnColour_eq samples width hcolumn, cell_eq, pure_bind]

@[simp] theorem history_eq (x y width : Nat) (samples : List Double) :
    history x y width samples = pure (Screen.history x y width samples) := by
  unfold history Screen.history
  split
  · rfl
  · have hfirst : min samples.length width ≤ width := Nat.min_le_right _ _
    have hbelow : 1 ≤ Screen.graphHeight := by decide
    simp only [columnLevels_eq, newest_eq, pure_bind, minus_of_le hfirst]
    refine drawAll_eq_pure fun line hline => ?_
    have hrow : line ≤ Screen.graphHeight - 1 := Nat.le_sub_one_of_lt (List.mem_range.mp hline)
    simp only [minus_of_le hbelow, minus_of_le hrow, lineCells_eq, pure_bind]

/-- A gauge that is no wider than a screen. -/
theorem gauge_eq (percent : Double) {width : Nat} (h : width < 65536) :
    gauge percent width = pure (Screen.gauge percent width) := by
  have hfits {cells : Nat} (hcells : cells ≤ width) : Screen.filledCells percent cells ≤ cells :=
    Screen.filledCells_le percent (Nat.lt_of_le_of_lt hcells (Nat.lt_trans h (by decide)))
  unfold gauge Screen.gauge
  split
  · simp only [minus_of_le (hfits (Nat.le_refl width)), pure_bind]
  · rename_i hwidth
    have hbrackets : 2 ≤ width := by omega
    simp only [minus_of_le hbrackets, minus_of_le (hfits (Nat.sub_le width 2)), pure_bind]

section Panels

variable {width : Nat} (hwidth : width < 65536)

include hwidth

theorem panelTitle_eq (x y : Nat) (label : String) (percent : Double) (detail : String) :
    panelTitle x y width label percent detail =
      pure (Screen.panelTitle x y width label percent detail) := by
  have hgauge (used : Nat) := gauge_eq percent (Nat.lt_of_le_of_lt (Nat.sub_le width used) hwidth)
  simp only [panelTitle, hgauge, putPieces_eq, pure_bind]
  rfl

theorem panel_eq (x y : Nat) (label : String) (percent : Double) (detail : String) {ring : Ring}
    (hring : ring.Good) :
    panel x y width label percent detail ring =
      pure (Screen.panel x y width label percent detail ring) := by
  simp only [panel, panelTitle_eq hwidth, samples_eq hring, history_eq, pure_bind]
  rfl

theorem graphs_eq (area : GraphArea) {s : Session} (hcpu : s.history.cpu.Good)
    (hmemory : s.history.memory.Good) : graphs area width s = pure (Screen.graphs area width s) := by
  have hhalf : width / 2 ≤ width := Nat.div_le_self width 2
  have hleft : width / 2 < 65536 := Nat.lt_of_le_of_lt hhalf hwidth
  have hright : width - width / 2 < 65536 := Nat.lt_of_le_of_lt (Nat.sub_le _ _) hwidth
  unfold graphs Screen.graphs panelPlaces
  split
  · simp only [minus_of_le hhalf, pure_bind, panel_eq hleft _ _ _ _ _ hcpu,
      panel_eq hright _ _ _ _ _ hmemory]
  · simp only [pure_bind, panel_eq hwidth _ _ _ _ _ hcpu, panel_eq hwidth _ _ _ _ _ hmemory]

end Panels

@[simp] theorem sparkline_eq (samples : List Double) (length : Nat) :
    sparkline samples length = pure (Screen.sparkline samples length) := by
  have hblank := Screen.length_newest samples length
  have hmarks : (Screen.newest samples length).mapM
      (fun value => item Screen.blocks (Screen.sparkLevel value)) =
        pure ((Screen.newest samples length).map fun value =>
          Screen.block (Screen.sparkLevel value)) :=
    mapM_eq_pure fun value _ => item_blocks (Screen.sparkLevel_le value)
  simp only [sparkline, newest_eq, pure_bind, minus_of_le hblank, hmarks]
  rfl

theorem coreCell_eq (core : Nat) {ring : Ring} (h : ring.Good) (percent : Double) :
    coreCell core ring percent = pure (Screen.coreCell core ring percent) := by
  simp only [coreCell, last_eq h, sparkline_eq, fit_eq, pure_bind]
  rfl

/-- The processors of one line, by their numbers. -/
theorem coreCellsFrom_eq {rings : List Ring} (h : ∀ ring ∈ rings, ring.Good)
    (percents : List Double) (first : Nat) {last : Nat} (hlast : last ≤ rings.length) :
    ((List.range' first (last - first)).mapM fun core => do
        let ring ← item rings core
        coreCell core ring (percents.getD core zeroPercent)) =
      (pure (Screen.coreCellsFrom rings percents first last) : Checked (List (Colour × String))) := by
  have hnumbers : List.range' first (last - first) =
      (((rings.zipIdx.drop first).take (last - first)).map Prod.snd) := by
    rw [List.map_take, List.map_drop, List.zipIdx_map_snd]
    refine List.ext_getElem (by simp; omega) fun place _ _ => by simp
  rw [hnumbers, List.mapM_map]
  refine mapM_eq_pure fun entry hentry => ?_
  have hring : rings[entry.2]? = some entry.1 :=
    List.mem_zipIdx_iff_getElem?.mp (List.mem_of_mem_drop (List.mem_of_mem_take hentry))
  simp only [Function.comp_apply, item_of_getElem? hring, pure_bind,
    coreCell_eq _ (h entry.1 (List.mem_of_getElem? hring))]

theorem coreCells_eq (area : CoreArea) (width : Nat) {rings : List Ring}
    (h : ∀ ring ∈ rings, ring.Good) (percents : List Double) :
    coreCells area width rings percents = pure (Screen.coreCells area width rings percents) := by
  refine drawAll_eq_pure fun line _ => ?_
  simp only [coreCellsFrom_eq h percents _ (Nat.min_le_right _ _), putPieces_eq, pure_bind]

end ProcessMonitor.Checked
