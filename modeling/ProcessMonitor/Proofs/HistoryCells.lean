-- The laws of the bars of a history. They are written a run of one colour at a time, and the
-- terminal shows what it would show if each cell were painted on its own: each column has the
-- colour and the height of its own sample.
import ProcessMonitor.Proofs.BarLevels
import ProcessMonitor.Proofs.FrameParts

namespace ProcessMonitor.Screen

/-! ## Columns -/

/-- The sample of a column. The newest one is in the last column, and columns to the left of the
oldest one have none. -/
def sampleAt? (samples : List Double) (width column : Nat) : Option Double :=
  if width ≤ samples.length + column then samples[samples.length + column - width]? else none

/-- The height of the bar in a column, in eighths of a cell. -/
def levelAt (samples : List Double) (width column : Nat) : Nat :=
  (sampleAt? samples width column).elim 0
    (level (peak (newest samples width)) (Double.ofNat (graphHeight * fullCell)))

/-- The colour of the sample of a column. -/
def colourAt (samples : List Double) (width column : Nat) : Colour :=
  (sampleAt? samples width column).elim .unset usageColour

/-- What stands in a column, in the line that stands `row` rows above the bottom. -/
def barCell (samples : List Double) (width row column : Nat) : Colour × Char :=
  (colourAt samples width column, cell (levelAt samples width column) row)

section Columns

variable (samples : List Double) (width : Nat)

/-- The newest samples with blanks in front are one entry for each column. -/
theorem replicate_append_newest {α : Type} (blank : α) (shown : Double → α) :
    List.replicate (width - (newest samples width).length) blank ++
        (newest samples width).map shown =
      (List.range width).map fun column => (sampleAt? samples width column).elim blank shown := by
  have hlength : (newest samples width).length = min samples.length width := by
    rw [newest, List.length_drop]
    omega
  have hfront : (List.replicate (width - (newest samples width).length) blank).length =
      width - min samples.length width := by rw [List.length_replicate, hlength]
  refine List.ext_getElem ?_ fun column hcolumn hrange => ?_
  · rw [List.length_append, hfront, List.length_map, hlength, List.length_map, List.length_range]
    omega
  rw [List.length_map, List.length_range] at hrange
  rw [List.getElem_map, List.getElem_range, sampleAt?]
  by_cases hsample : width ≤ samples.length + column
  · have hplace : samples.length + column - width < samples.length := by omega
    have hshift : samples.length - width + (column - (width - min samples.length width)) =
        samples.length + column - width := by omega
    rw [if_pos hsample, List.getElem?_eq_getElem hplace, Option.elim_some,
      List.getElem_append_right (by omega), List.getElem_map]
    simp only [hfront]
    simp only [newest, List.getElem_drop, hshift]
  · rw [if_neg hsample, Option.elim_none, List.getElem_append_left (by omega),
      List.getElem_replicate]

theorem columnLevels_eq_map :
    columnLevels samples width graphHeight = (List.range width).map (levelAt samples width) :=
  replicate_append_newest samples width 0 _

theorem columnColours_eq_map :
    columnColours samples width = (List.range width).map (colourAt samples width) :=
  replicate_append_newest samples width Colour.unset usageColour

/-- The cells of one line. -/
theorem zip_columns (row : Nat) :
    (columnColours samples width).zip
        ((columnLevels samples width graphHeight).map (cell · row)) =
      (List.range width).map (barCell samples width row) := by
  rw [columnLevels_eq_map, columnColours_eq_map, List.map_map, List.zip_map']
  rfl

end Columns

/-! ## Runs -/

theorem ne_nil_of_mem_colourRuns {cells : List (Colour × Char)} {run : Colour × List Char}
    (h : run ∈ colourRuns cells) : run.2 ≠ [] := by
  induction cells with
  | nil => exact absurd h List.not_mem_nil
  | cons cell rest ih =>
    obtain ⟨colour, c⟩ := cell
    rw [colourRuns] at h
    split at h
    · obtain rfl := List.mem_singleton.mp h
      exact List.cons_ne_nil _ _
    · rename_i next text more hrest
      rw [hrest] at ih
      split at h
      · rcases List.mem_cons.mp h with rfl | hmore
        · exact List.cons_ne_nil _ _
        · exact ih (List.mem_cons_of_mem _ hmore)
      · rcases List.mem_cons.mp h with rfl | hmore
        · exact List.cons_ne_nil _ _
        · exact ih hmore

/-- Runs gathered from left to right: a run is written when the colour changes, and the last one
at the end. -/
def gathered : Colour → List Char → List (Colour × Char) → List (Colour × List Char)
  | colour, run, [] => [(colour, run)]
  | colour, run, (next, c) :: rest =>
    if next ≠ colour ∧ run ≠ [] then (colour, run) :: gathered next [c] rest
    else gathered next (run ++ [c]) rest

theorem head?_colourRuns (cells : List (Colour × Char)) :
    (colourRuns cells).head?.map (·.1) = cells.head?.map (·.1) := by
  cases cells with
  | nil => rfl
  | cons cell rest =>
    rw [colourRuns]
    split
    · rfl
    · split <;> rfl

/-- A run in front of another colour stays apart. -/
theorem colourRuns_run {colour : Colour} {run : List Char} (hrun : run ≠ [])
    {cells : List (Colour × Char)} (h : cells.head?.map (·.1) ≠ some colour) :
    colourRuns (run.map (colour, ·) ++ cells) = (colour, run) :: colourRuns cells := by
  induction run with
  | nil => exact absurd rfl hrun
  | cons c rest ih =>
    rw [List.map_cons, List.cons_append, colourRuns]
    cases rest with
    | nil =>
      rw [← head?_colourRuns] at h
      rw [List.map_nil, List.nil_append]
      split
      · rename_i hnone
        rw [hnone]
      · rename_i next text more hsome
        rw [hsome] at h ⊢
        exact if_neg fun hsame => h (congrArg some hsame.symm)
    | cons next more =>
      rw [ih (List.cons_ne_nil _ _)]
      exact if_pos rfl

theorem gathered_eq {colour : Colour} {run : List Char} (hrun : run ≠ [])
    (cells : List (Colour × Char)) :
    gathered colour run cells = colourRuns (run.map (colour, ·) ++ cells) := by
  -- The unfinished run stands for cells in front of the rest, so the induction is for any run.
  induction cells generalizing colour run with
  | nil =>
    rw [colourRuns_run hrun]
    · rfl
    · simp
  | cons cell rest ih =>
    obtain ⟨next, c⟩ := cell
    rw [gathered]
    by_cases hnext : next = colour
    · rw [if_neg (by simp [hnext]), hnext, ih (by simp), List.map_append, List.append_assoc]
      rfl
    · rw [if_pos ⟨hnext, hrun⟩, ih (List.cons_ne_nil _ _),
        colourRuns_run hrun (by simpa using hnext)]
      rfl

/-- The loop begins with an empty run, which has no colour yet. -/
theorem gathered_nil {cells : List (Colour × Char)} (h : cells ≠ []) (colour : Colour) :
    gathered colour [] cells = colourRuns cells := by
  obtain ⟨⟨first, c⟩, rest, rfl⟩ := List.exists_cons_of_ne_nil h
  rw [gathered, if_neg (by simp), List.nil_append, gathered_eq (List.cons_ne_nil _ _)]
  rfl

/-- The strokes of runs side by side. -/
def drawn (runs : List (Colour × List Char)) : List Stroke :=
  runs.flatMap fun (colour, text) => [.foreground colour, .print (String.ofList text)]

/-- The strokes of cells that are painted one by one. -/
def painted (cells : List (Colour × Char)) : List Stroke :=
  cells.flatMap fun (colour, c) => [.foreground colour, .print (String.singleton c)]

namespace Terminal

theorem obey_ink_of_eq {t : Terminal} {tint : Tint} (h : t.ink = tint) :
    t.obey (.ink tint) = t := by
  rw [← h]
  rfl

/-- The colour that is set already can be set again in front of each glyph. -/
theorem obeyAll_painted_of_eq {t : Terminal} {colour : Colour} (h : t.ink = colour.palette?)
    (text : List Char) :
    t.obeyAll (signsOf (painted (text.map (colour, ·)))) = t.obeyAll (text.map Sign.glyph) := by
  induction text generalizing t with
  | nil => rfl
  | cons c rest ih =>
    have hnext : (t.obey (.glyph c)).ink = colour.palette? := h
    have hpaint : signsOf (painted ((c :: rest).map (colour, ·))) =
        .ink colour.palette? :: .glyph c :: signsOf (painted (rest.map (colour, ·))) := by
      simp [painted, signsOf, Stroke.signs]
    rw [hpaint, obeyAll_cons, obey_ink_of_eq h, obeyAll_cons, ih hnext]
    rfl

/-- Runs that are not empty show what their cells show one by one. -/
theorem obeyAll_drawn (t : Terminal) {runs : List (Colour × List Char)}
    (h : ∀ run ∈ runs, run.2 ≠ []) :
    t.obeyAll (signsOf (drawn runs)) = t.obeyAll (signsOf (painted (spread runs))) := by
  induction runs generalizing t with
  | nil => rfl
  | cons run rest ih =>
    obtain ⟨colour, text⟩ := run
    have hrest := fun t => ih t fun other hother => h other (List.mem_cons_of_mem _ hother)
    obtain ⟨c, more, rfl⟩ := List.exists_cons_of_ne_nil (h (colour, text) List.mem_cons_self)
    have hdrawn : signsOf (drawn ((colour, c :: more) :: rest)) =
        .ink colour.palette? :: .glyph c :: (more.map Sign.glyph ++ signsOf (drawn rest)) := by
      simp [drawn, signsOf, Stroke.signs]
    have hpainted : signsOf (painted (spread ((colour, c :: more) :: rest))) =
        .ink colour.palette? :: .glyph c ::
          (signsOf (painted (more.map (colour, ·))) ++ signsOf (painted (spread rest))) := by
      simp [painted, spread, signsOf, Stroke.signs]
    have hink : ((t.obey (.ink colour.palette?)).obey (.glyph c)).ink = colour.palette? := rfl
    rw [hdrawn, hpainted]
    simp only [obeyAll_cons, obeyAll_append]
    rw [obeyAll_painted_of_eq hink, hrest]

end Terminal

/-! ## Heights -/

/-- The eighths of a block. -/
def eighthsOf (c : Char) : Nat := blocks.idxOf c

theorem eighthsOf_block : ∀ eighths ≤ fullCell, eighthsOf (block eighths) = eighths := by
  decide +kernel

theorem eighthsOf_cell (level row : Nat) :
    eighthsOf (cell level row) = min (level - row * fullCell) fullCell :=
  eighthsOf_block _ (Nat.min_le_right _ _)

/-- The lines above one another hold what of a bar is below their top. -/
theorem foldl_eighthsOf_cell (level height : Nat) :
    (List.range height).foldl (fun sum row => sum + eighthsOf (cell level row)) 0 =
      min level (height * fullCell) := by
  induction height with
  | zero => simp
  | succ height ih =>
    rw [List.range_succ, List.foldl_append, ih, List.foldl_cons, List.foldl_nil, eighthsOf_cell,
      Nat.succ_mul]
    omega

theorem mem_newest_of_sampleAt? {samples : List Double} {width column : Nat} {value : Double}
    (h : sampleAt? samples width column = some value) : value ∈ newest samples width := by
  unfold sampleAt? at h
  split at h
  · rename_i hsample
    have hplace : samples.length - width + (samples.length + column - width -
        (samples.length - width)) = samples.length + column - width := by omega
    rw [← hplace, ← List.getElem?_drop] at h
    exact List.mem_of_getElem? h
  · exact absurd h (by simp)

theorem levelAt_le (samples : List Double) (width column : Nat) :
    levelAt samples width column ≤ graphHeight * fullCell := by
  unfold levelAt
  cases hsample : sampleAt? samples width column with
  | none => exact Nat.zero_le _
  | some value =>
    have hbits : graphHeight * fullCell < 2 ^ 53 := by decide
    rw [Option.elim_some]
    exact level_le_of_le (le_peak (mem_newest_of_sampleAt? hsample)) hbits

/-! ## The laws -/

/-- The lines of runs of one colour, the top one first. `runs` are those of the line that stands
so many rows above the bottom. -/
def runLines (x y : Nat) (runs : Nat → List (Colour × List Char)) : List Stroke :=
  (List.range graphHeight).flatMap fun line =>
    .moveTo x (y + line) :: (drawn (runs (graphHeight - 1 - line)) ++ [.plain])

/-- The same lines, one cell at a time. -/
def cellLines (x y : Nat) (cells : Nat → List (Colour × Char)) : List Stroke :=
  (List.range graphHeight).flatMap fun line =>
    .moveTo x (y + line) :: (painted (cells (graphHeight - 1 - line)) ++ [.plain])

theorem Terminal.obeyAll_runLines (t : Terminal) (x y : Nat)
    {runs : Nat → List (Colour × List Char)} (h : ∀ row, ∀ run ∈ runs row, run.2 ≠ []) :
    t.obeyAll (signsOf (runLines x y runs)) =
      t.obeyAll (signsOf (cellLines x y fun row => spread (runs row))) := by
  unfold runLines cellLines
  induction List.range graphHeight generalizing t with
  | nil => rfl
  | cons line rest ih =>
    simp only [List.flatMap_cons, List.cons_append, signsOf_cons, signsOf_append, obeyAll_append,
      ih, obeyAll_drawn _ (h _)]

/-- The bars of any samples, in any place and of any width. Each line is what the loop gathers of
its cells, and a terminal shows what it shows when each cell is painted on its own. The runs of a
line are not empty and have one character for each column: the block of what of the column's
height is in that row, in the colour of the column's own sample. The blocks of a column add up to
its height, and one that is not empty stands on full ones. -/
theorem a_history_is_painted_cell_by_cell (x y : Nat) {width : Nat} (samples : List Double)
    (hwidth : 1 ≤ width) :
    let cells row := (List.range width).map (barCell samples width row)
    let runs row := gathered .unset [] (cells row)
    history x y width samples = runLines x y runs ∧
      (∀ t : Terminal, t.obeyAll (signsOf (history x y width samples)) =
        t.obeyAll (signsOf (cellLines x y cells))) ∧
      (∀ row, (∀ run ∈ runs row, run.2 ≠ []) ∧ ((runs row).flatMap (·.2)).length = width ∧
        spread (runs row) = cells row) ∧
      columnLevels samples width graphHeight = (List.range width).map (levelAt samples width) ∧
      ∀ column,
        (List.range graphHeight).foldl
            (fun sum row => sum + eighthsOf (barCell samples width row column).2) 0 =
          levelAt samples width column ∧
        ∀ row, 0 < eighthsOf (barCell samples width (row + 1) column).2 →
          eighthsOf (barCell samples width row column).2 = fullCell := by
  intro cells runs
  have hcells : ∀ row, cells row ≠ [] := by
    intro row
    simp only [cells, ne_eq, List.map_eq_nil_iff, List.range_eq_nil]
    omega
  have hgathered : ∀ row, runs row = colourRuns (cells row) :=
    fun row => gathered_nil (hcells row) .unset
  have hruns : history x y width samples = runLines x y runs := by
    rw [history_of_pos x y samples hwidth]
    simp only [zip_columns, runLines, hgathered]
    rfl
  have hfull : ∀ row, ∀ run ∈ runs row, run.2 ≠ [] :=
    fun row run hrun => ne_nil_of_mem_colourRuns (hgathered row ▸ hrun)
  have hspread : ∀ row, spread (runs row) = cells row := by
    intro row
    rw [hgathered, spread_colourRuns]
  refine ⟨hruns, fun t => ?_, fun row => ⟨hfull row, ?_, hspread row⟩,
    columnLevels_eq_map samples width, fun column => ⟨?_, fun row hrow => ?_⟩⟩
  · rw [hruns, t.obeyAll_runLines x y hfull]
    simp only [hspread]
  · rw [hgathered, flatMap_colourRuns, List.length_map, List.length_map, List.length_range]
  · simp only [barCell, foldl_eighthsOf_cell]
    exact Nat.min_eq_left (levelAt_le samples width column)
  · simp only [barCell, eighthsOf_cell] at hrow ⊢
    rw [Nat.succ_mul] at hrow
    omega

/-- Two low samples and a high one in four columns: nothing to the left of them, one green run
that goes over two columns, and a red bar of full height. -/
theorem neighbours_of_one_colour_are_one_run :
    1 ≤ 4 ∧ ∃ runs, history 3 7 4 [5, 10, 90] = runLines 3 7 runs ∧
      runs 0 = [(.unset, [' ']), (.green, ['▂', '▄']), (.red, ['█'])] ∧
      runs 4 = [(.unset, [' ']), (.green, [' ', ' ']), (.red, ['█'])] ∧
      ∀ t : Terminal, t.obeyAll (signsOf (history 3 7 4 [5, 10, 90])) =
        t.obeyAll (signsOf (cellLines 3 7 fun row => spread (runs row))) := by
  obtain ⟨hruns, hshown, hrows, _⟩ :=
    a_history_is_painted_cell_by_cell 3 7 [5, 10, 90] (by decide : 1 ≤ 4)
  refine ⟨by decide, _, hruns, by decide +kernel, by decide +kernel, fun t => ?_⟩
  rw [hshown t]
  simp only [hrows]

end ProcessMonitor.Screen
