-- The texts of the kernel as it writes them: counters and processes from their
-- fields, and the list of users. Numbers are given as text, since not every text is a number.
import ProcessMonitor.Proc.Counters

namespace ProcessMonitor.Proc

/-- A line of ticks. -/
def tickLine (name : String) (numbers : List String) : String :=
  String.intercalate " " (name :: numbers) ++ "\n"

/-- The tick counters: a line for all processors, one for each, and the counts
that follow them. -/
def statText (cpu : List String) (cores : List (List String)) : String :=
  tickLine "cpu " cpu
    ++ String.join (cores.zipIdx.map fun (core, i) => tickLine ("cpu" ++ toString i) core)
    ++ "intr 0\nctxt 0\nbtime 0\nprocesses 0\nprocs_running 1\nprocs_blocked 0\n"

/-- The memory counters, each by a name and what stands behind its colon. A
required one that is not given is zero. -/
def meminfoText (entries : List (String × String)) : String :=
  let required := requiredMemory.map fun name => (name, (entries.lookup name).getD "0 kB")
  let more := entries.filter fun entry => !requiredMemory.contains entry.1
  String.join ((required ++ more).map fun (name, value) => name ++ ": " ++ value ++ "\n")

/-- The fields of a process line that are told. -/
structure LineFields where
  pid : String := "0"
  name : String := ""
  state : String := "S"
  parent : String := "0"
  userTicks : String := "0"
  systemTicks : String := "0"
  priority : String := "0"
  nice : String := "0"
  threads : String := "0"
  virtualBytes : String := "0"
  residentPages : String := "0"

def zeros (n : Nat) : List String := List.replicate n "0"

/-- The line of fields of a process. All that is not told is zero, but the process
is of the first group and session and has no terminal. -/
def processText (f : LineFields) : String :=
  String.intercalate " "
    ([f.pid, "(" ++ f.name ++ ")", f.state, f.parent, "1", "1", "0", "-1"] ++ zeros 5
      ++ [f.userTicks, f.systemTicks] ++ zeros 2 ++ [f.priority, f.nice, f.threads] ++ zeros 2
      ++ [f.virtualBytes, f.residentPages] ++ zeros 15) ++ "\n"

/-- The list of users, each a name with a uid. -/
def usersText (users : List (String × Nat)) : String :=
  String.join (users.map fun (name, uid) => name ++ ":x:" ++ toString uid ++ ":\n")

end ProcessMonitor.Proc
