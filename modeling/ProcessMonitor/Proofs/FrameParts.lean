-- The parts of a frame as blocks of the screen. Each row of a part takes the columns
-- that the part has, whatever its text is: the text is cut or padded to them, or spaces
-- fill the room that its pieces leave.
import ProcessMonitor.Proofs.FrameLines
import ProcessMonitor.Screen.Frame

namespace ProcessMonitor.Screen

/-! ## Bars -/

theorem runs_fit (text : String) (width : Nat) :
    Runs width [.print (Text.fit text width), .plain] := by
  have h := Runs.nil.plain.print (Text.fit text width)
  rwa [Text.displayWidth_fit] at h

section Bars

variable (row width : Nat) (s : Session)

theorem isLine_header (hostname clock : String) :
    IsLine 0 row width (header row width hostname clock) :=
  ⟨_, rfl, ((runs_fit _ width).foreground _).background _⟩

theorem isLine_stats : IsLine 0 row width (stats row width s) :=
  ⟨_, rfl, (runs_fit _ width).foreground _⟩

theorem isLine_status : IsLine 0 row width (status row width s) :=
  ⟨_, rfl, (runs_fit _ width).foreground _⟩

theorem isLine_footer : IsLine 0 row width (footer row width s) :=
  ⟨_, rfl, ((runs_fit _ width).foreground _).background _⟩

theorem isLine_columnHeadings (table : Table) :
    IsLine 0 row width (columnHeadings row width table) :=
  ⟨_, rfl, ((runs_fit _ width).foreground _).background _⟩

end Bars

/-! ## Pieces -/

/-- The pieces and what fills the room that they leave. -/
theorem runs_putPieces (room : Nat) (pieces : List (Colour × String)) {behind : List Stroke}
    (h : Runs (putPieces room pieces).2 behind) :
    Runs room ((putPieces room pieces).1 ++ behind) := by
  induction pieces generalizing room with
  | nil => exact h
  | cons piece rest ih =>
    obtain ⟨colour, text⟩ := piece
    have hput := Text.displayWidth_put room text
    have hrest := ((ih (Text.put room text).2 h).print (Text.put room text).1).foreground colour
    rwa [hput] at hrest

theorem runs_spaces (room : Nat) : Runs room [.print (Text.spaces room)] := by
  have h := Runs.nil.print (Text.spaces room)
  rwa [Text.displayWidth_spaces] at h

/-- Pieces, and spaces behind them. -/
theorem runs_padded (room : Nat) (pieces : List (Colour × String)) :
    Runs room ((putPieces room pieces).1 ++
      [.print (Text.spaces (putPieces room pieces).2), .plain]) :=
  runs_putPieces room pieces ((runs_spaces _).append Runs.nil.plain)

theorem isLine_panelTitle (x y width : Nat) (label : String) (percent : Double) (detail : String) :
    IsLine x y width (panelTitle x y width label percent detail) := by
  exact ⟨_, rfl, runs_padded width
    [(.cyan, " " ++ Text.padRight 4 label),
     (usageColour percent, gauge percent (width - ((" " ++ Text.padRight 4 label).length +
       (" " ++ detail ++ " ").length))),
     (.white, " " ++ detail ++ " ")]⟩

theorem isLine_processRow (y width : Nat) (selected : Bool) (p : ProcessSample) :
    IsLine 0 y width (processRow y width selected p) := by
  exact ⟨_, rfl, (runs_padded width
    [((rowColours selected).2, rowStart p),
     (usageColour p.cpu, percentColumn p.cpu),
     (usageColour p.memory, percentColumn p.memory),
     ((rowColours selected).2, Text.truncate p.command (width - fixedColumnsWidth))]).background
       (rowColours selected).1⟩

theorem isLine_blankRow (y width : Nat) : IsLine 0 y width (blankRow y width) :=
  ⟨_, rfl, runs_spaces width⟩

theorem block_coreCells (area : CoreArea) (width : Nat) (rings : List Ring)
    (percents : List Double) (h : area.top + area.rows ≤ 65536) :
    IsBlock 0 area.top width area.rows (coreCells area width rings percents) :=
  block_range (fun _ _ => ⟨_, rfl, runs_putPieces width _ (runs_spaces _).plain⟩) (by decide) h

/-! ## Graphs -/

theorem charWidth_block (eighths : Nat) : Text.charWidth (block eighths) = 1 := by
  have hblocks : blocks.map Text.charWidth = List.replicate 9 1 := by decide +kernel
  unfold block
  rw [List.getD_eq_getElem?_getD]
  cases hc : blocks[eighths]? with
  | none => decide
  | some c =>
    have hmem : Text.charWidth c ∈ blocks.map Text.charWidth :=
      List.mem_map_of_mem (List.mem_of_getElem? hc)
    rw [hblocks] at hmem
    exact List.eq_of_mem_replicate hmem

theorem length_newest (samples : List Double) (width : Nat) :
    (newest samples width).length ≤ width := by
  rw [newest, List.length_drop]
  omega

theorem length_columnLevels (samples : List Double) (width height : Nat) :
    (columnLevels samples width height).length = width := by
  have := length_newest samples width
  simp only [columnLevels, List.length_append, List.length_replicate, List.length_map]
  omega

theorem length_columnColours (samples : List Double) (width : Nat) :
    (columnColours samples width).length = width := by
  have := length_newest samples width
  simp only [columnColours, List.length_append, List.length_replicate, List.length_map]
  omega

/-- The cells that runs are made of. -/
def spread (runs : List (Colour × List Char)) : List (Colour × Char) :=
  runs.flatMap fun (colour, text) => text.map (colour, ·)

/-- Each cell keeps its place and its colour. -/
theorem spread_colourRuns (cells : List (Colour × Char)) : spread (colourRuns cells) = cells := by
  induction cells with
  | nil => rfl
  | cons cell rest ih =>
    obtain ⟨colour, c⟩ := cell
    rw [colourRuns]
    split
    · rename_i h
      rw [h] at ih
      rw [← ih]
      rfl
    · rename_i next text more h
      rw [h] at ih
      rw [← ih]
      split
      · rename_i hcolour
        rw [hcolour]
        rfl
      · rfl

/-- Gathered into runs, all characters stay in their order. -/
theorem flatMap_colourRuns (cells : List (Colour × Char)) :
    (colourRuns cells).flatMap (·.2) = cells.map (·.2) := by
  have htext : (spread (colourRuns cells)).map (·.2) = (colourRuns cells).flatMap (·.2) := by
    simp [spread, List.map_flatMap, Function.comp_def]
  rw [← htext, spread_colourRuns]

theorem runs_colourRuns (runs : List (Colour × List Char)) {count : Nat} {behind : List Stroke}
    (h : Runs count behind) :
    Runs (Text.width (runs.flatMap (·.2)) + count)
      ((runs.flatMap fun (colour, text) =>
        [.foreground colour, .print (String.ofList text)]) ++ behind) := by
  induction runs with
  | nil => rwa [List.flatMap_nil, Text.width, Nat.zero_add]
  | cons run rest ih =>
    have hrun := (ih.print (String.ofList run.2)).foreground run.1
    rw [List.flatMap_cons, Text.width_append, Nat.add_assoc]
    rwa [Text.displayWidth, String.toList_ofList] at hrun

theorem isLine_historyLine (x y : Nat) {cells : List (Colour × Char)}
    (h : ∀ cell ∈ cells, Text.charWidth cell.2 = 1) :
    IsLine x y cells.length (historyLine x y cells) := by
  have hwidth : Text.width ((colourRuns cells).flatMap (·.2)) = cells.length := by
    rw [flatMap_colourRuns, Text.width_of_narrow, List.length_map]
    intro c hc
    obtain ⟨cell, hcell, rfl⟩ := List.mem_map.mp hc
    exact h cell hcell
  have hruns := runs_colourRuns (colourRuns cells) Runs.nil.plain
  rw [hwidth] at hruns
  exact ⟨_, rfl, hruns⟩

/-- A history that has columns is its lines. -/
theorem history_of_pos (x y : Nat) {width : Nat} (samples : List Double) (hwidth : 0 < width) :
    history x y width samples = (List.range graphHeight).flatMap fun line =>
      historyLine x (y + line) ((columnColours samples width).zip
        ((columnLevels samples width graphHeight).map (cell · (graphHeight - 1 - line)))) := by
  have hsome : (width == 0) = false := by simp; omega
  rw [history, hsome, if_neg Bool.false_ne_true]

theorem block_history (x y : Nat) {width : Nat} (samples : List Double) (hwidth : 0 < width)
    (hx : x < 65536) (hy : y + graphHeight ≤ 65536) :
    IsBlock x y width graphHeight (history x y width samples) := by
  rw [history_of_pos x y samples hwidth]
  refine block_range (fun line _ => ?_) hx hy
  have hnarrow : ∀ c ∈ (columnColours samples width).zip
      ((columnLevels samples width graphHeight).map fun level =>
        cell level (graphHeight - 1 - line)), Text.charWidth c.2 = 1 := by
    intro c hc
    obtain ⟨level, _, hlevel⟩ := List.mem_map.mp (List.of_mem_zip hc).2
    rw [← hlevel]
    exact charWidth_block _
  have hline := isLine_historyLine x (y + line) hnarrow
  rwa [List.length_zip, List.length_map, length_columnColours, length_columnLevels,
    Nat.min_self] at hline

theorem block_panel (x y : Nat) {width : Nat} (label : String) (percent : Double) (detail : String)
    (ring : Ring) (hwidth : 0 < width) (hx : x < 65536) (hy : y + panelRows ≤ 65536) :
    IsBlock x y width panelRows (panel x y width label percent detail ring) := by
  have hrows : panelRows = 1 + graphHeight := by decide
  rw [hrows] at hy ⊢
  exact ((isLine_panelTitle x y width label percent detail).block hx (by omega)).above
    (block_history x (y + 1) _ hwidth hx (by omega))

theorem block_graphs (area : GraphArea) {width : Nat} (s : Session) (hwidth : 2 ≤ width)
    (hx : width ≤ 65536) (hy : area.top + area.rows ≤ 65536) :
    IsBlock 0 area.top width area.rows (graphs area width s) := by
  unfold graphs
  unfold GraphArea.rows at hy ⊢
  cases hside : area.sideBySide with
  | true =>
    rw [hside] at hy
    have hwide : width / 2 + (width - width / 2) = width := by omega
    have hcpu := block_panel 0 area.top "CPU" s.metrics.cpu
      (Text.padLeft 5 (s.metrics.cpu.fixed 1) ++ "%") s.history.cpu
      (by omega : 0 < width / 2) (by decide) hy
    have hmemory := block_panel (0 + width / 2) area.top "Mem" s.metrics.memory
      (memoryDetail s.metrics) s.history.memory (by omega : 0 < width - width / 2) (by omega) hy
    have hblock := hcpu.beside hmemory
    rw [hwide, Nat.zero_add] at hblock
    exact hblock
  | false =>
    rw [hside, if_neg Bool.false_ne_true] at hy
    have hrows : panelRows * 2 = panelRows + panelRows := by decide
    rw [hrows] at hy
    have hcpu := block_panel 0 area.top "CPU" s.metrics.cpu
      (Text.padLeft 5 (s.metrics.cpu.fixed 1) ++ "%") s.history.cpu
      (by omega : 0 < width) (by decide) (by omega)
    have hmemory := block_panel 0 (area.top + panelRows) "Mem" s.metrics.memory
      (memoryDetail s.metrics) s.history.memory (by omega : 0 < width) (by decide) (by omega)
    have hblock := hcpu.above hmemory
    rw [← hrows] at hblock
    exact hblock

/-! ## Rows of processes -/

/-- The rows of the processes that are drawn, one below the other. -/
theorem block_drawn (y width : Nat) (marked : ProcessSample × Nat → Bool)
    (shown : List (ProcessSample × Nat)) (h : y + shown.length ≤ 65536) :
    IsBlock 0 y width shown.length (shown.zipIdx.flatMap fun row =>
      processRow (y + row.2) width (marked row.1) row.1.1) := by
  have hlength : (shown.zipIdx.map fun row =>
      processRow (y + row.2) width (marked row.1) row.1.1).length = shown.length := by simp
  rw [List.flatMap_def, ← hlength]
  refine block_lines ?_ (by decide) (by omega)
  intro i line hline
  rw [List.getElem?_map, List.getElem?_zipIdx, Option.map_map] at hline
  obtain ⟨process, _, rfl⟩ := Option.map_eq_some_iff.mp hline
  rw [Function.comp_apply, Nat.zero_add]
  exact isLine_processRow _ _ _ _

theorem block_processRows (layout : Layout) (table : Table)
    (h : layout.tableTop + layout.tableRows ≤ 65536) :
    IsBlock 0 layout.tableTop layout.width layout.tableRows (processRows layout table) := by
  unfold processRows
  generalize hshown : table.window.take layout.tableRows = shown
  have hlength : shown.length ≤ layout.tableRows := by
    rw [← hshown, List.length_take]
    omega
  have hall : shown.length + (layout.tableRows - shown.length) = layout.tableRows := by omega
  have hblank : IsBlock 0 (layout.tableTop + shown.length) layout.width
      (layout.tableRows - shown.length)
      ((List.range (layout.tableRows - shown.length)).flatMap fun line =>
        blankRow (layout.tableTop + shown.length + line) layout.width) :=
    block_range (fun _ _ => isLine_blankRow _ _) (by decide) (by omega)
  have hblock := (block_drawn layout.tableTop layout.width (·.2 == table.selected) shown
    (by omega)).above hblank
  simp only [hall, Nat.add_assoc] at hblock
  exact hblock

/-- The list is a part of the frame. -/
theorem processRows_infix_frame (s : Session) (layout : Layout) (clock : String) :
    processRows layout s.table <:+: frame s layout clock := by
  unfold frame
  dsimp only
  rw [List.append_assoc, List.append_assoc, List.append_assoc]
  exact List.infix_append _ _ _

/-! ## Boxes -/

namespace Box

theorem displayWidth_side : Text.displayWidth "│" = 1 := by decide +kernel

theorem displayWidth_corners : Text.displayWidth "┌" = 1 ∧ Text.displayWidth "┐" = 1 ∧
    Text.displayWidth "└" = 1 ∧ Text.displayWidth "┘" = 1 := by decide +kernel

theorem charWidth_rule : Text.charWidth '─' = 1 := by decide +kernel

section Box

variable (box : Box) (h : 2 ≤ box.width)

include h in
theorem isLine_line {row : Nat} (text : String) (colour : Colour) (hrow : row < box.innerHeight) :
    IsLine box.x (box.y + 1 + row) box.width (box.line row text colour) := by
  have hruns := (((((((Runs.nil.plain.print "│").foreground .white).print
    (Text.fit text box.innerWidth)).foreground colour).print "│").foreground .white).background
      box.background)
  have hwidth : 1 + (box.innerWidth + (1 + 0)) = box.width := by
    unfold innerWidth
    omega
  rw [displayWidth_side, Text.displayWidth_fit, hwidth] at hruns
  rw [line, if_neg (Nat.not_le.mpr hrow)]
  exact ⟨_, rfl, hruns⟩

include h in
theorem isLine_topBorder (title : String) : IsLine box.x box.y box.width (box.topBorder title) := by
  obtain ⟨hleft, hright, _, _⟩ := displayWidth_corners
  have hused := Text.displayWidth_clip_le title box.innerWidth
  unfold topBorder
  dsimp only
  generalize Text.clip title box.innerWidth = shown at hused ⊢
  -- Where the title stands does not matter, only that the rule fills what it leaves.
  generalize hspace : (box.innerWidth - Text.displayWidth shown) / 2 = left
  have hruns := (((((((Runs.nil.plain.print
    (Text.copies (box.innerWidth - left - Text.displayWidth shown) '─' ++ "┐")).foreground
      .white).print shown).foreground .yellow).print ("┌" ++ Text.copies left '─')).foreground
        .white).background box.background)
  have hwidth : 1 + left + (Text.displayWidth shown +
      (box.innerWidth - left - Text.displayWidth shown + 1 + 0)) = box.width := by
    unfold innerWidth at *
    omega
  rw [Text.displayWidth_append, Text.displayWidth_append, hleft, hright,
    Text.displayWidth_copies charWidth_rule, Text.displayWidth_copies charWidth_rule,
    hwidth] at hruns
  exact ⟨_, rfl, hruns⟩

include h in
theorem isLine_bottomBorder :
    IsLine box.x (box.y + box.height - 1) box.width box.bottomBorder := by
  obtain ⟨_, _, hleft, hright⟩ := displayWidth_corners
  have hruns := ((Runs.nil.plain.print
    ("└" ++ Text.copies box.innerWidth '─' ++ "┘")).foreground .white).background box.background
  have hwidth : 1 + box.innerWidth + 1 + 0 = box.width := by
    unfold innerWidth
    omega
  rw [Text.displayWidth_append, Text.displayWidth_append, hleft, hright,
    Text.displayWidth_copies charWidth_rule, hwidth] at hruns
  exact ⟨_, rfl, hruns⟩

end Box

/-- The box stands on the screen. -/
structure Fits (width height : Nat) (box : Box) : Prop where
  columns : 2 ≤ box.width ∧ box.x + box.width ≤ width
  rows : 2 ≤ box.height ∧ box.y + box.height ≤ height

theorem fits_of_centered {screenWidth screenHeight width height : Nat} {ground : Colour} {box : Box}
    (h : centered? screenWidth screenHeight width height ground = some box) :
    box.Fits screenWidth screenHeight := by
  unfold centered? at h
  dsimp only at h
  split at h
  · exact absurd h (by simp)
  · rename_i hroom
    rw [Bool.or_eq_true, not_or, decide_eq_true_eq, decide_eq_true_eq] at hroom
    unfold minWidth minHeight at hroom
    obtain rfl := Option.some.inj h
    exact ⟨by dsimp only; omega, by dsimp only; omega⟩

section Fits

variable {screenWidth screenHeight : Nat} {box : Box} (h : box.Fits screenWidth screenHeight)
  (hwidth : screenWidth ≤ 65536) (hheight : screenHeight ≤ 65536)

include h hwidth hheight in
theorem inside_line (row : Nat) (text : String) (colour : Colour) :
    Inside box.x box.y box.width box.height (box.line row text colour) := by
  obtain ⟨hcolumns, hrows⟩ := h
  by_cases hrow : row < box.innerHeight
  · have hinner : row + 2 < box.height := by
      unfold innerHeight at hrow
      omega
    exact ((isLine_line box hcolumns.1 text colour hrow).block (by omega) (by omega)).inside.mono
      ⟨by omega, by omega⟩ ⟨by omega, by omega⟩
  · rw [line, if_pos (Nat.not_lt.mp hrow)]
    exact inside_nil

include h hwidth hheight in
theorem inside_frame (title : String) :
    Inside box.x box.y box.width box.height (box.frame title) := by
  have hcolumns := h.columns
  have hrows := h.rows
  have htop := ((isLine_topBorder box hcolumns.1 title).block (by omega) (by omega)).inside
  have hbottom := ((isLine_bottomBorder box hcolumns.1).block (by omega) (by omega)).inside
  exact ((htop.mono ⟨by omega, by omega⟩ ⟨by omega, by omega⟩).append
    (Inside.flatMap fun row _ => inside_line h hwidth hheight row "" .white)).append
      (hbottom.mono ⟨by omega, by omega⟩ ⟨by omega, by omega⟩)

end Fits

end Box

/-- A box that is drawn keeps to its own columns and rows. -/
theorem inside_modal_of_centered {screenWidth screenHeight : Nat} (hwidth : screenWidth ≤ 65536)
    (hheight : screenHeight ≤ 65536) {width : Nat} {ground : Colour} (title : String)
    {lines : List (String × Colour)} {box : Box}
    (h : Box.centered? screenWidth screenHeight width (lines.length + 2) ground = some box) :
    Inside box.x box.y box.width box.height
      (modal screenWidth screenHeight width ground title lines) := by
  have hfits := Box.fits_of_centered h
  rw [modal, h]
  exact (Box.inside_frame hfits hwidth hheight title).append
    (Inside.flatMap fun line _ => Box.inside_line hfits hwidth hheight _ _ _)

theorem inside_modal {screenWidth screenHeight : Nat} (hwidth : screenWidth ≤ 65536)
    (hheight : screenHeight ≤ 65536) (width : Nat) (ground : Colour) (title : String)
    (lines : List (String × Colour)) :
    Inside 0 0 screenWidth screenHeight
      (modal screenWidth screenHeight width ground title lines) := by
  cases hbox : Box.centered? screenWidth screenHeight width (lines.length + 2) ground with
  | none =>
    rw [modal, hbox]
    exact inside_nil
  | some box =>
    have hfits := Box.fits_of_centered hbox
    exact (inside_modal_of_centered hwidth hheight title hbox).mono
      ⟨Nat.zero_le _, by have := hfits.columns; omega⟩ ⟨Nat.zero_le _, by have := hfits.rows; omega⟩

/-- No box leaves the screen. -/
theorem inside_overlay {width height : Nat} (hwidth : width ≤ 65536) (hheight : height ≤ 65536)
    (mode : Mode) : Inside 0 0 width height (overlay width height mode) := by
  cases mode with
  | normal => exact inside_nil
  | filterEntry buffer => exact inside_modal hwidth hheight _ _ _ _
  | confirmKill pid command => exact inside_modal hwidth hheight _ _ _ _
  | help => exact inside_modal hwidth hheight _ _ _ _

end ProcessMonitor.Screen
