-- The options of the command line.
import ProcessMonitor.Session.Basic

namespace ProcessMonitor.CommandLine

/-- What the command line asks for. -/
structure Options where
  /-- Milliseconds between two passes, as given. -/
  delay : Nat
  sort : SortColumn
  ascending : Bool
  filter : Option String
  logFile : Option String
deriving DecidableEq, Repr

namespace Options

def default : Options := ⟨Session.defaultInterval, .cpu, false, none, none⟩

/-- The interval brought into the supported range. -/
def interval (options : Options) : Nat :=
  max Session.minInterval (min options.delay Session.maxInterval)

/-- The session that the options ask for. -/
def session (options : Options) : Session :=
  Session.start options.sort (!options.ascending) (options.filter.getD "") options.interval

end Options

end ProcessMonitor.CommandLine
