-- A process as the host lists it, with its absolute counters, and a process as
-- one sampling pass shows it, with its shares of the processors and memory.
import ProcessMonitor.Number.Double
import ProcessMonitor.Text.Blank

namespace ProcessMonitor

/-- One process and its absolute counters. -/
structure ProcessRecord where
  pid : Int
  parent : Int
  owner : String
  /-- The short name that the kernel keeps. -/
  name : String
  /-- The arguments joined by spaces; empty for threads of the kernel. -/
  cmdline : String
  state : Char
  /-- Ticks spent in user and kernel code since the start. -/
  ticks : Nat
  virtualKb : Nat
  residentKb : Nat
  priority : Int
  nice : Int
  threads : Int
deriving DecidableEq

/-- The command line without blanks at its ends, or the short name when nothing
is left of it. -/
def ProcessRecord.command (record : ProcessRecord) : String :=
  let line := Text.trim record.cmdline.toList
  if line.isEmpty then record.name else String.ofList line

/-- One process at one sampling instant. -/
structure ProcessSample where
  pid : Int
  parent : Int
  owner : String
  cpu : Double
  memory : Double
  virtualKb : Nat
  residentKb : Nat
  state : Char
  command : String
  priority : Int
  nice : Int
  threads : Int
deriving DecidableEq

end ProcessMonitor
