-- One process as the kernel keeps it: what signals and changes of priority do
-- to it, and the record that the host lists of it.
import ProcessMonitor.Process.Control
import ProcessMonitor.Process.Record

namespace ProcessMonitor

structure Life where
  pid : Int
  name : String
  arguments : List String
  nice : Int
  stopped : Bool := false
  /-- Ended, but not forgotten yet. -/
  ended : Bool := false
  /-- A signal to end waits until the process goes on. -/
  pending : Bool := false
deriving DecidableEq, Repr

namespace Life

/-- A kernel with this process alone, which refuses signals and changes of
priority to those who may not make them. -/
def kernel (life : Life) (allowed : Bool) : Kernel :=
  let answer : KernelAnswer := if allowed then ⟨0, none⟩ else ⟨-1, some Errno.notPermitted⟩
  ⟨fun _ _ => answer, fun _ => ⟨life.nice, none⟩, fun _ _ => answer⟩

/-- A stopped process takes the signal to end only when it goes on. -/
def terminate (life : Life) : Life :=
  if life.stopped then { life with pending := true } else { life with ended := true }

def stop (life : Life) : Life := if life.ended then life else { life with stopped := true }

def resume (life : Life) : Life :=
  { life with stopped := false, ended := life.ended || life.pending }

/-- The letter of the state. -/
def state (life : Life) : Char := if life.ended then 'Z' else if life.stopped then 'T' else 'S'

/-- A process that has ended has no command line and no memory left. The kernel
counts priorities from 20 below the nice value. -/
def record (life : Life) : ProcessRecord :=
  { pid := life.pid
    parent := 1
    owner := ""
    name := life.name
    cmdline := if life.ended then ""
      else String.intercalate " " (life.arguments.filter (!·.isEmpty))
    state := life.state
    ticks := 0
    virtualKb := if life.ended then 0 else 1
    residentKb := if life.ended then 0 else 1
    priority := 20 + life.nice
    nice := life.nice
    threads := 1 }

end Life

end ProcessMonitor
