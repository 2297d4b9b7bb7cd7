-- Tick counters of a processor, and the percentage that two differences make.
import ProcessMonitor.Number.Double

namespace ProcessMonitor

/-- Ticks since the start of the host, by what they were spent on. -/
structure Ticks where
  user : Nat
  nice : Nat
  system : Nat
  idle : Nat
  iowait : Nat
  irq : Nat
  softirq : Nat
  steal : Nat
deriving DecidableEq, Repr

namespace Ticks

def total (t : Ticks) : Nat :=
  t.user + t.nice + t.system + t.idle + t.iowait + t.irq + t.softirq + t.steal

/-- The ticks spent on anything but waiting. -/
def work (t : Ticks) : Nat := t.total - (t.idle + t.iowait)

end Ticks

def hundred : Double := 100

def zeroPercent : Double := 0

/-- A share as a percentage in `[0, 100]`; 0 when there is nothing to share. -/
def usagePercent (work total : Nat) : Double :=
  if total == 0 then zeroPercent
  else (hundred * Double.ofNat work / Double.ofNat total).clamp zeroPercent hundred

/-- The percentage of work between two readings of the same counters. -/
def Ticks.usage (before now : Ticks) : Double :=
  usagePercent (now.work - before.work) (now.total - before.total)

end ProcessMonitor
