-- A whole frame. Every row of the screen is written to its full width, so a
-- frame covers the one before it.
import ProcessMonitor.Screen.Bar
import ProcessMonitor.Screen.Graph
import ProcessMonitor.Screen.Processes
import ProcessMonitor.Screen.Prompt

namespace ProcessMonitor.Screen

/-- What the graph of the memory says in its title. -/
def memoryDetail (m : Metrics) : String :=
  formatKb m.memoryUsed ++ "/" ++ formatKb m.memoryTotal ++ " "
    ++ Text.padLeft 4 (m.memory.fixed 1) ++ "%"

/-- One graph with its title. -/
def panel (x y width : Nat) (label : String) (percent : Double) (detail : String) (ring : Ring) :
    List Stroke :=
  panelTitle x y width label percent detail ++ history x (y + 1) width ring.toList

/-- The graphs of the processors and of the memory. -/
def graphs (area : GraphArea) (width : Nat) (s : Session) : List Stroke :=
  let m := s.metrics
  let cpuWidth := if area.sideBySide then width / 2 else width
  let (memoryX, memoryY, memoryWidth) : Nat × Nat × Nat :=
    if area.sideBySide then (width / 2, area.top, width - width / 2)
    else (0, area.top + panelRows, width)
  panel 0 area.top cpuWidth "CPU" m.cpu (Text.padLeft 5 (m.cpu.fixed 1) ++ "%") s.history.cpu
    ++ panel memoryX memoryY memoryWidth "Mem" m.memory (memoryDetail m) s.history.memory

/-- What stands over the frame in each mode. -/
def overlay (width height : Nat) : Mode → List Stroke
  | .normal => []
  | .filterEntry buffer => filterLine width height buffer
  | .confirmKill pid command => killQuestion width height pid command
  | .help => help width height

/-- A part of the frame that may have been left out. -/
def whenPlaced {α : Type} (place : Option α) (draw : α → List Stroke) : List Stroke :=
  match place with
  | none => []
  | some a => draw a

/-- The frame of a session. The table is taken to have the rows of the layout. -/
def frame (s : Session) (layout : Layout) (clock : String) : List Stroke :=
  let width := layout.width
  whenPlaced layout.header (header · width s.hostname clock)
    ++ whenPlaced layout.stats (stats · width s)
    ++ whenPlaced layout.graphs (graphs · width s)
    ++ whenPlaced layout.cores (coreCells · width s.history.cores s.metrics.cores)
    ++ whenPlaced layout.tableHeader (columnHeadings · width s.table)
    ++ processRows layout s.table
    ++ whenPlaced layout.status (status · width s)
    ++ whenPlaced layout.footer (footer · width s)
    ++ overlay width layout.height s.mode
    ++ [.plain, .moveTo 0 0]

end ProcessMonitor.Screen
