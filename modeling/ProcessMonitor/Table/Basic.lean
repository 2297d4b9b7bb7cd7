-- The process list: the samples of the latest pass, the rows that the filter
-- keeps in their order, the selected row and the window that scrolls over them.
-- Every operation ends by settling the selection and the window, so the
-- selected row always stands inside the window.
import ProcessMonitor.Table.Column
import ProcessMonitor.Text.Blank

namespace ProcessMonitor

/-- A row of the list: a sample and its place in the pass. -/
abbrev Row := ProcessSample × Nat

structure Table where
  /-- All samples of the latest pass, in the order of the host. -/
  samples : List ProcessSample
  /-- The rows that the filter keeps, in order. -/
  view : List Row
  column : SortColumn
  descending : Bool
  filter : String
  /-- The selected row, as a place in the view. -/
  selected : Nat
  /-- The first row of the window, as a place in the view. -/
  offset : Nat
  /-- How many rows the window has. -/
  rows : Nat
deriving DecidableEq

namespace Table

/-- A list without samples, with a window of one row. -/
def empty (column : SortColumn) (descending : Bool) (filter : String) : Table :=
  { samples := [], view := [], column, descending, filter, selected := 0, offset := 0, rows := 1 }

/-! ## The view -/

/-- A process is kept when its command or its owner contains the filter. -/
def keeps (filter : String) (sample : ProcessSample) : Bool :=
  filter.isEmpty || Text.contains filter.toList sample.command.toList
    || Text.contains filter.toList sample.owner.toList

/-- The rows that a filter keeps of the samples, in order. Rows that the order
does not tell apart stay as the host lists them. -/
def viewOf (samples : List ProcessSample) (column : SortColumn) (descending : Bool)
    (filter : String) : List Row :=
  (samples.zipIdx.filter fun row => keeps filter row.1).mergeSort
    fun a b => (rowOrder column descending a.1 b.1).isLE

/-- How many rows the view has. -/
def size (table : Table) : Nat := table.view.length

/-- The window moved only as far as it takes to show the selected row and to
leave no blank line below a list that could fill it. -/
def settledOffset (size rows selected offset : Nat) : Nat :=
  let showing :=
    if selected < offset then selected
    else if offset + rows ≤ selected then selected + 1 - rows
    else offset
  min showing (size - rows)

/-- Brings the selection into the view and the window over the selection. -/
def settle (table : Table) : Table :=
  if table.view.isEmpty then { table with selected := 0, offset := 0 }
  else
    let selected := min table.selected (table.size - 1)
    { table with
      selected := selected
      offset := settledOffset table.size (max table.rows 1) selected table.offset }

/-- Derives the view again. -/
def rebuild (table : Table) : Table :=
  settle { table with
    view := viewOf table.samples table.column table.descending table.filter }

/-! ## Operations -/

/-- Takes the samples of a new pass. -/
def update (table : Table) (samples : List ProcessSample) : Table :=
  rebuild { table with samples }

/-- Sets the height of the window; it has one row at least. -/
def setRows (table : Table) (rows : Nat) : Table := settle { table with rows := max rows 1 }

/-- The largest place that a selection can be asked for. -/
def lastPlace : Nat := 18446744073709551615

/-- Moves the selection by `delta` rows; negative is up. -/
def move (table : Table) (delta : Int) : Table :=
  settle { table with selected := min (table.selected + delta).toNat lastPlace }

/-- The largest step that a selection can be moved by. -/
def lastStep : Int := 9223372036854775807

/-- The nearest step that a selection can be moved by. -/
def limitStep (delta : Int) : Int := max (-lastStep - 1) (min delta lastStep)

/-- Moves the selection by whole windows. A height past the largest step is read
as the signed number of the same 64 bits. -/
def page (table : Table) (pages : Int) : Table :=
  table.move (limitStep (pages * Int.bmod (max table.rows 1 : Nat) (lastPlace + 1)))

def toStart (table : Table) : Table := settle { table with selected := 0 }

def toEnd (table : Table) : Table := settle { table with selected := table.size - 1 }

/-- Sorts by the next column. -/
def cycleColumn (table : Table) : Table := rebuild { table with column := table.column.next }

/-- Sorts in the other direction. -/
def reverse (table : Table) : Table := rebuild { table with descending := !table.descending }

def setFilter (table : Table) (filter : String) : Table := rebuild { table with filter }

def clearFilter (table : Table) : Table := table.setFilter ""

/-! ## What the screen reads -/

def isEmpty (table : Table) : Bool := table.view.isEmpty

/-- How many samples the latest pass has. -/
def total (table : Table) : Nat := table.samples.length

def get? (table : Table) (place : Nat) : Option ProcessSample := table.view[place]?.map Prod.fst

def selected? (table : Table) : Option ProcessSample := table.get? table.selected

/-- All samples of the view, in order. -/
def toList (table : Table) : List ProcessSample := table.view.map Prod.fst

/-- The samples in the window with their places in the view. -/
def window (table : Table) : List (ProcessSample × Nat) :=
  (table.toList.zipIdx.drop table.offset).take table.rows

end Table

end ProcessMonitor
