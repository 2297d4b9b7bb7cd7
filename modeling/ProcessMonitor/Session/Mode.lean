-- The modes of the screen. Exactly one is active, and each carries the data it
-- needs, so leaving a mode drops its data.

namespace ProcessMonitor

inductive Mode where
  /-- The process list alone. -/
  | normal
  /-- A filter is being typed; the text so far. -/
  | filterEntry (buffer : String)
  /-- A process is about to be ended; which one was fixed when the question was
  asked. -/
  | confirmKill (pid : Int) (command : String)
  /-- The list of keys is shown. -/
  | help
deriving DecidableEq, Repr

end ProcessMonitor
