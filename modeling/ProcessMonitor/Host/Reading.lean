-- What the host shows at one instant: its counters and its processes.
import ProcessMonitor.Host.Memory
import ProcessMonitor.Process.Record

namespace ProcessMonitor

/-- The load of the last 1, 5 and 15 minutes. -/
structure Load where
  one : Double
  five : Double
  fifteen : Double
deriving DecidableEq

def Load.none : Load := ⟨Double.zero false, Double.zero false, Double.zero false⟩

structure Reading where
  /-- All processors together, unless the counters were unreadable. -/
  cpu : Option Ticks
  /-- Each processor, in the order of the host. -/
  cores : List Ticks
  memory : Memory
  load : Load
  processes : List ProcessRecord
deriving DecidableEq

end ProcessMonitor
