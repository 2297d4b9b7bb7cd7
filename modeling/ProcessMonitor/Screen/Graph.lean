-- Graphs of histories, gauges, and the cells of the processors. Bars are built
-- from blocks of an eighth of a cell.
import ProcessMonitor.Host.Ticks
import ProcessMonitor.History.Ring
import ProcessMonitor.Number.Fixed
import ProcessMonitor.Screen.Layout
import ProcessMonitor.Screen.Usage

namespace ProcessMonitor.Screen

/-- The blocks from empty to full, each an eighth of a cell higher. -/
def blocks : List Char := [' ', '▁', '▂', '▃', '▄', '▅', '▆', '▇', '█']

/-- The eighths in a full cell. -/
def fullCell : Nat := 8

def block (eighths : Nat) : Char := blocks.getD eighths ' '

/-- The newest samples that fit into `width` columns, oldest first. -/
def newest (samples : List Double) (width : Nat) : List Double :=
  samples.drop (samples.length - width)

/-! ## Histories -/

/-- The largest sample, and 0 when none is larger. -/
def peak (samples : List Double) : Double := samples.foldl Double.max zeroPercent

/-- The height of one bar in eighths, out of `full` at the peak. -/
def level (top : Double) (full : Double) (value : Double) : Nat :=
  if zeroPercent.lt top then (value.max zeroPercent / top * full).roundToNat else 0

/-- The heights of the bars of a graph, in eighths of a cell: one column for
each sample, the newest on the right, scaled to the largest one shown. Columns
without a sample have no bar. -/
def columnLevels (samples : List Double) (width height : Nat) : List Nat :=
  let shown := newest samples width
  let top := peak shown
  let full := Double.ofNat (height * fullCell)
  List.replicate (width - shown.length) 0 ++ shown.map (level top full)

/-- The character of a column in the row that stands `row` rows above the
bottom. -/
def cell (level row : Nat) : Char := block (min (level - row * fullCell) fullCell)

/-- The colour of each column: by its sample, and the terminal's own without
one. -/
def columnColours (samples : List Double) (width : Nat) : List Colour :=
  let shown := newest samples width
  List.replicate (width - shown.length) .unset ++ shown.map usageColour

/-- Neighbours of one colour gathered into runs. -/
def colourRuns : List (Colour × Char) → List (Colour × List Char)
  | [] => []
  | (colour, c) :: rest =>
    match colourRuns rest with
    | [] => [(colour, [c])]
    | (next, text) :: more =>
      if colour = next then (colour, c :: text) :: more else (colour, [c]) :: (next, text) :: more

/-- One line of a graph, a run of one colour at a time. -/
def historyLine (x y : Nat) (cells : List (Colour × Char)) : List Stroke :=
  let runs := (colourRuns cells).flatMap fun (colour, text) =>
    [.foreground colour, .print (String.ofList text)]
  .moveTo x y :: (runs ++ [.plain])

/-- The bars of a history, with the left upper corner at column `x` of row
`y`. -/
def history (x y width : Nat) (samples : List Double) : List Stroke :=
  if width == 0 then []
  else
    let levels := columnLevels samples width graphHeight
    let colours := columnColours samples width
    (List.range graphHeight).flatMap fun line =>
      let row := graphHeight - 1 - line
      historyLine x (y + line) (colours.zip (levels.map fun level => cell level row))

/-! ## Gauges -/

/-- How many of `cells` cells a percentage fills. -/
def filledCells (percent : Double) (cells : Nat) : Nat :=
  (percent.clamp zeroPercent hundred / hundred * Double.ofNat cells).roundToNat

/-- A gauge of `width` characters, between brackets where there is room for
them. -/
def gauge (percent : Double) (width : Nat) : String :=
  if width < 2 then
    let filled := filledCells percent width
    Text.copies filled '|' ++ Text.spaces (width - filled)
  else
    let inner := width - 2
    let filled := filledCells percent inner
    "[" ++ Text.copies filled '|' ++ Text.spaces (inner - filled) ++ "]"

/-- The title of a graph: a label, a gauge and a detail. -/
def panelTitle (x y width : Nat) (label : String) (percent : Double) (detail : String) :
    List Stroke :=
  let label := " " ++ Text.padRight 4 label
  let detail := " " ++ detail ++ " "
  let bar := gauge percent (width - (label.length + detail.length))
  let (pieces, room) := putPieces width
    [(.cyan, label), (usageColour percent, bar), (.white, detail)]
  .moveTo x y :: (pieces ++ [.print (Text.spaces room), .plain])

/-! ## Processors -/

/-- Samples in the small graph of a processor. -/
def sparklineLength : Nat := 6

def eight : Double := 8

/-- The height of a sample between 0 and 100, in eighths of a cell. -/
def sparkLevel (value : Double) : Nat :=
  (value.clamp zeroPercent hundred / hundred * eight).roundToNat

/-- The newest samples on a scale from 0 to 100, one character each, the newest
on the right. -/
def sparkline (samples : List Double) (length : Nat) : String :=
  let shown := newest samples length
  Text.spaces (length - shown.length)
    ++ String.ofList (shown.map fun value => block (sparkLevel value))

/-- The cell of one processor: its number, its newest samples, its use. -/
def coreCell (core : Nat) (ring : Ring) (percent : Double) : Colour × String :=
  let spark := sparkline (ring.last sparklineLength) sparklineLength
  let text := Text.padLeft 3 (toString core) ++ " " ++ spark ++ " "
    ++ Text.padLeft 3 (percent.fixed 0) ++ "%"
  (usageColour percent, Text.fit text coreCellWidth)

/-- The cells of the processors from `first` up to `last`. -/
def coreCellsFrom (rings : List Ring) (percents : List Double) (first last : Nat) :
    List (Colour × String) :=
  (rings.zipIdx.drop first).take (last - first) |>.map fun (ring, core) =>
    coreCell core ring (percents.getD core zeroPercent)

/-- All rows of processor cells. -/
def coreCells (area : CoreArea) (width : Nat) (rings : List Ring) (percents : List Double) :
    List Stroke :=
  (List.range area.rows).flatMap fun line =>
    let first := line * area.cellsPerRow
    let last := min (first + area.cellsPerRow) rings.length
    let (pieces, room) := putPieces width (coreCellsFrom rings percents first last)
    .moveTo 0 (area.top + line) :: (pieces ++ [.plain, .print (Text.spaces room)])

end ProcessMonitor.Screen
