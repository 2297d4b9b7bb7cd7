-- The file that takes the reports: where it is, and what goes wrong when it is
-- opened.
import ProcessMonitor.Log.Filter

namespace ProcessMonitor.Log

/-- The place of the file: the command line goes before the environment, where
an empty value counts as none. -/
def path? (commandLine environment : Option String) : Option String :=
  match commandLine with
  | some path => some path
  | none => environment.filter (!·.isEmpty)

/-- Why no reports can be taken. -/
inductive OpenError where
  /-- The file cannot be opened, and why. -/
  | cannotOpen (path reason : String)
  /-- Reports are already taken. -/
  | alreadyOpen
deriving DecidableEq, Repr

def OpenError.message : OpenError → String
  | .cannotOpen path reason => "cannot open log file " ++ path ++ ": " ++ reason
  | .alreadyOpen =>
    "logger already initialized: attempted to set a logger after the logging system was "
      ++ "already initialized"

/-- Takes reports from here on, and gives the place of the file when there is
one. `opens` tells how the system answers to opening a file. -/
def start (taken : Bool) (opens : String → Except String Unit)
    (commandLine environment : Option String) : Except OpenError (Option String) :=
  match path? commandLine environment with
  | none => .ok none
  | some path =>
    match opens path with
    | .error reason => .error (.cannotOpen path reason)
    | .ok () => if taken then .error .alreadyOpen else .ok (some path)

end ProcessMonitor.Log
