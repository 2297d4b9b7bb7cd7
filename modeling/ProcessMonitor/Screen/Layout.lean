-- Which rows of the screen belong to what. Rows are handed out from the top
-- (header, statistics, graphs, processors, column headings) and from the bottom
-- (footer, status); the process list gets what is left. A part that does not
-- fit is left out.

namespace ProcessMonitor.Screen

/-! ## Sizes -/

/-- Rows of bars in a graph, without its title. -/
def graphHeight : Nat := 5

/-- Rows of a graph with its title. -/
def panelRows : Nat := graphHeight + 1

/-- From this width on the two graphs stand side by side. -/
def sideBySideWidth : Nat := 80

/-- Graphs need this many rows on the screen and this many columns. -/
def graphMinHeight : Nat := 20

def graphMinWidth : Nat := 20

/-- Process rows that must stay before graphs or processors are shown. -/
def minTableRows : Nat := 3

/-- Columns of the cell of one processor. -/
def coreCellWidth : Nat := 16

/-- Rows of processor cells at most. -/
def maxCoreRows : Nat := 2

/-! ## Areas -/

structure GraphArea where
  top : Nat
  /-- The two graphs share their rows; otherwise the memory is below. -/
  sideBySide : Bool
deriving DecidableEq, Repr

def GraphArea.rows (area : GraphArea) : Nat := if area.sideBySide then panelRows else panelRows * 2

structure CoreArea where
  top : Nat
  rows : Nat
  cellsPerRow : Nat
deriving DecidableEq, Repr

structure Layout where
  width : Nat
  height : Nat
  header : Option Nat
  stats : Option Nat
  graphs : Option GraphArea
  cores : Option CoreArea
  tableHeader : Option Nat
  tableTop : Nat
  tableRows : Nat
  status : Option Nat
  footer : Option Nat
deriving DecidableEq, Repr

namespace Layout

/-- The graphs at row `top` of the rows above `bottom`, if there is room for
them, the column headings and a few processes. -/
def graphsAt (width height top bottom : Nat) : Option GraphArea :=
  let area : GraphArea := ⟨top, width ≥ sideBySideWidth⟩
  if height ≥ graphMinHeight && width ≥ graphMinWidth
      && bottom - top > area.rows + minTableRows then some area
  else none

/-- The cells of `count` processors at row `top`, if there is room. -/
def coresAt (width count top bottom : Nat) : Option CoreArea :=
  let cellsPerRow := max (width / coreCellWidth) 1
  let rows := min ((count + cellsPerRow - 1) / cellsPerRow) maxCoreRows
  if count > 0 && bottom - top > rows + minTableRows then some ⟨top, rows, cellsPerRow⟩ else none

/-- The rows of a screen of `width` columns and `height` rows, for a host with
`coreCount` processors. -/
def compute (width height coreCount : Nat) : Layout :=
  let belowHeader := min height 1
  let bottom := height - (if height ≥ 3 then 2 else if height ≥ 2 then 1 else 0)
  let hasStats := bottom - belowHeader ≥ 2
  let belowStats := if hasStats then belowHeader + 1 else belowHeader
  let graphs := graphsAt width height belowStats bottom
  let belowGraphs := belowStats + (graphs.map GraphArea.rows).getD 0
  let cores := if graphs.isSome then coresAt width coreCount belowGraphs bottom else none
  let belowCores := belowGraphs + (cores.map CoreArea.rows).getD 0
  let hasTable := bottom > belowCores
  let tableTop := if hasTable then belowCores + 1 else belowCores
  { width
    height
    header := if height ≥ 1 then some 0 else none
    stats := if hasStats then some belowHeader else none
    graphs
    cores
    tableHeader := if hasTable then some belowCores else none
    tableTop
    tableRows := bottom - tableTop
    status := if height ≥ 3 then some (height - 2) else none
    footer := if height ≥ 2 then some (height - 1) else none }

end Layout

end ProcessMonitor.Screen
