-- The process list: its column headings and its rows. The numbers have columns
-- of fixed width, and the command takes what is left.
import ProcessMonitor.Host.Memory
import ProcessMonitor.Screen.Layout
import ProcessMonitor.Screen.Usage
import ProcessMonitor.Table.Basic

namespace ProcessMonitor.Screen

/-- The columns in front of the command. -/
def fixedColumnsWidth : Nat := 66

/-- The columns of the owner. -/
def ownerWidth : Nat := 9

/-- The columns in front of the two percentages. -/
def rowStart (p : ProcessSample) : String :=
  " " ++ Text.padLeft 7 (toString p.pid) ++ " " ++ Text.fit p.owner ownerWidth
    ++ " " ++ Text.padLeft 4 (toString p.priority) ++ " " ++ Text.padLeft 4 (toString p.nice)
    ++ " " ++ Text.padLeft 7 (formatKb p.virtualKb) ++ " " ++ Text.padLeft 7 (formatKb p.residentKb)
    ++ " " ++ String.singleton p.state ++ " " ++ Text.padLeft 4 (toString p.threads) ++ " "

/-- A percentage in its column. -/
def percentColumn (percent : Double) : String := Text.padLeft 5 (percent.fixed 1) ++ "  "

/-- The headings of all columns. -/
def headings : String :=
  " " ++ Text.padLeft 7 "PID" ++ " " ++ Text.padRight ownerWidth "USER"
    ++ " " ++ Text.padLeft 4 "PRI" ++ " " ++ Text.padLeft 4 "NI"
    ++ " " ++ Text.padLeft 7 "VIRT" ++ " " ++ Text.padLeft 7 "RES"
    ++ " S " ++ Text.padLeft 4 "THR" ++ " " ++ Text.padLeft 5 "CPU%"
    ++ "  " ++ Text.padLeft 5 "MEM%" ++ "  COMMAND"

/-- The headings, followed by the column that the list is sorted by and the
direction. -/
def columnHeadings (row width : Nat) (table : Table) : List Stroke :=
  let arrow := if table.descending then "↓" else "↑"
  let text := headings ++ "  [" ++ table.column.name ++ " " ++ arrow ++ "]"
  [.moveTo 0 row, .background .darkGrey, .foreground .white, .print (Text.fit text width), .plain]

/-- The colours of a row: background and text. -/
def rowColours (selected : Bool) : Colour × Colour :=
  if selected then (.darkCyan, .white) else (.unset, .unset)

/-- One process in row `y` of the screen. -/
def processRow (y width : Nat) (selected : Bool) (p : ProcessSample) : List Stroke :=
  let (ground, ink) := rowColours selected
  let (pieces, room) := putPieces width
    [(ink, rowStart p),
     (usageColour p.cpu, percentColumn p.cpu),
     (usageColour p.memory, percentColumn p.memory),
     (ink, Text.truncate p.command (width - fixedColumnsWidth))]
  .moveTo 0 y :: .background ground :: (pieces ++ [.print (Text.spaces room), .plain])

def blankRow (y width : Nat) : List Stroke := [.moveTo 0 y, .print (Text.spaces width)]

/-- The window of the list, the selected process marked, and blank rows below
it. -/
def processRows (layout : Layout) (table : Table) : List Stroke :=
  let shown := table.window.take layout.tableRows
  let drawn := shown.zipIdx.flatMap fun ((process, place), line) =>
    processRow (layout.tableTop + line) layout.width (place == table.selected) process
  let blank := (List.range (layout.tableRows - shown.length)).flatMap fun line =>
    blankRow (layout.tableTop + (shown.length + line)) layout.width
  drawn ++ blank

end ProcessMonitor.Screen
