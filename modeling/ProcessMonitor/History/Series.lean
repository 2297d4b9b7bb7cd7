-- The histories behind the graphs: one of the processors together, one of the
-- memory, and one of each processor.
import ProcessMonitor.History.Ring

namespace ProcessMonitor

structure History where
  cpu : Ring
  memory : Ring
  cores : List Ring
deriving DecidableEq

namespace History

/-- How many samples each history keeps. -/
def capacity : Nat := 60

/-- How many processors have a history. -/
def maxCores : Nat := 64

def empty : History := ⟨Ring.empty capacity, Ring.empty capacity, []⟩

/-- One history for each of `count` processors: the old ones when there are as
many, and new ones otherwise. -/
def tracked (cores : List Ring) (count : Nat) : List Ring :=
  if cores.length == count then cores else List.replicate count (Ring.empty capacity)

/-- Adds the values of one pass to every history. -/
def record (history : History) (cpu memory : Double) (cores : List Double) : History :=
  { cpu := history.cpu.push cpu
    memory := history.memory.push memory
    cores := List.zipWith Ring.push (tracked history.cores (min cores.length maxCores)) cores }

end History

end ProcessMonitor
