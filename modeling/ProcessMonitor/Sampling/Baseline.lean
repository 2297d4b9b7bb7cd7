-- The counters of earlier passes that percentages are measured against. A pass
-- whose counters are unreadable reports zeros and leaves the baseline of the
-- last readable pass in place, so both sides of a quotient always cover the
-- same interval.
import Std.Data.HashMap
import Std.Data.HashSet
import ProcessMonitor.Host.Ticks

namespace ProcessMonitor

/-- The readings that the next pass is measured against. -/
structure Baseline where
  /-- All processors together; nothing before the first readable pass. -/
  cpu : Option Ticks
  cores : List Ticks
  /-- The ticks of each process, by its pid. -/
  processes : Std.HashMap Int Nat

/-- The use of the processors between two passes. -/
structure CpuUsage where
  total : Double
  cores : List Double
  /-- The ticks that passed on all processors together. -/
  elapsed : Nat
deriving DecidableEq

namespace Baseline

def empty : Baseline := ⟨none, [], ∅⟩

/-- The use of each processor. Without as many readings of the last pass there
is nothing to measure against. -/
def coreUsage (before now : List Ticks) : List Double :=
  if before.length == now.length then List.zipWith Ticks.usage before now
  else now.map fun _ => zeroPercent

/-- The use of the processors since the baseline, and the baseline after it. -/
def measure (base : Baseline) (cpu : Option Ticks) (cores : List Ticks) : CpuUsage × Baseline :=
  match cpu with
  | none => (⟨zeroPercent, cores.map fun _ => zeroPercent, 0⟩, base)
  | some now =>
    let total := match base.cpu with
      | none => zeroPercent
      | some before => before.usage now
    let elapsed := match base.cpu with
      | none => 0
      | some before => now.total - before.total
    (⟨total, coreUsage base.cores cores, elapsed⟩, { base with cpu := some now, cores := cores })

/-- The share of one process in the ticks that passed, and the baseline with its
ticks noted. A process without a baseline has no share yet. -/
def measureProcess (base : Baseline) (pid : Int) (ticks elapsed : Nat) : Double × Baseline :=
  let share := match base.processes[pid]? with
    | none => zeroPercent
    | some before => usagePercent (ticks - before) elapsed
  (share, { base with processes := base.processes.insert pid ticks })

/-- Keeps the notes of the processes that are still there. -/
def keepOnly (base : Baseline) (pids : List Int) : Baseline :=
  let alive := Std.HashSet.ofList pids
  { base with processes := base.processes.filter fun pid _ => alive.contains pid }

end Baseline

end ProcessMonitor
