-- The columns that the process list can be sorted by, and the order of the
-- rows: first the column, in either direction, and between equals always the
-- smaller pid.
import ProcessMonitor.Process.Record

namespace ProcessMonitor

inductive SortColumn where
  | pid
  | owner
  | cpu
  | memory
  | command
  | priority
deriving DecidableEq, Repr

namespace SortColumn

/-- The column after this one; the last is followed by the first. -/
def next : SortColumn → SortColumn
  | .pid => .owner
  | .owner => .cpu
  | .cpu => .memory
  | .memory => .command
  | .command => .priority
  | .priority => .pid

/-- The name that the screen shows. -/
def name : SortColumn → String
  | .pid => "PID"
  | .owner => "User"
  | .cpu => "CPU%"
  | .memory => "MEM%"
  | .command => "Command"
  | .priority => "Priority"

/-- Compares two processes on this column alone, ascending. -/
def compare (column : SortColumn) (a b : ProcessSample) : Ordering :=
  match column with
  | .pid => Ord.compare a.pid b.pid
  | .owner => Ord.compare a.owner b.owner
  | .cpu => a.cpu.totalCompare b.cpu
  | .memory => a.memory.totalCompare b.memory
  | .command => Ord.compare a.command b.command
  | .priority => Ord.compare a.priority b.priority

/-- The text with the capital letters of ASCII made small. -/
def lowercase (text : String) : String := String.ofList (text.toList.map Char.toLower)

/-- Reads a column from its name on the command line, in any letter case. -/
def read (text : String) : Except String SortColumn :=
  match lowercase text with
  | "pid" => .ok .pid
  | "user" => .ok .owner
  | "owner" => .ok .owner
  | "cpu" => .ok .cpu
  | "mem" => .ok .memory
  | "memory" => .ok .memory
  | "command" => .ok .command
  | "cmd" => .ok .command
  | "priority" => .ok .priority
  | "pri" => .ok .priority
  | other =>
    .error ("unknown sort column '" ++ other
      ++ "' (expected pid, user, cpu, mem, command or priority)")

end SortColumn

/-- The order of the rows of the process list. -/
def rowOrder (column : SortColumn) (descending : Bool) (a b : ProcessSample) : Ordering :=
  let main := column.compare a b
  (if descending then main.swap else main).then (Ord.compare a.pid b.pid)

end ProcessMonitor
