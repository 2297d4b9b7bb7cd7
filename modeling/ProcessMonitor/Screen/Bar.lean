-- The bars of one row: the header, the statistics, the status and the footer.
-- Each fills its row.
import ProcessMonitor.Host.Memory
import ProcessMonitor.Screen.Stroke
import ProcessMonitor.Session.Basic

namespace ProcessMonitor.Screen

def programName : String := "HiTop"

def version : String := "0.1.0"

/-- The title, the host and the time of day. -/
def header (row width : Nat) (hostname clock : String) : List Stroke :=
  let title := " " ++ programName ++ " " ++ version ++ "  " ++ hostname
  let clock := clock ++ " "
  let gap := width - (Text.displayWidth title + Text.displayWidth clock)
  [.moveTo 0 row, .background .darkBlue, .foreground .white,
    .print (Text.fit (title ++ Text.spaces gap ++ clock) width), .plain]

/-- How many processes there are, or how many of them the filter keeps. -/
def tasksText (s : Session) : String :=
  if s.table.filter.isEmpty then "Tasks: " ++ toString s.metrics.tasks
  else "Showing: " ++ toString s.table.size ++ "/" ++ toString s.table.total

def swapText (m : Metrics) : String :=
  if m.swapTotal == 0 then "Swap: none"
  else "Swap: " ++ formatKb m.swapUsed ++ " / " ++ formatKb m.swapTotal
    ++ " (" ++ m.swap.fixed 0 ++ "%)"

def memoryText (m : Metrics) : String :=
  "Mem: " ++ formatKb m.memoryUsed ++ " / " ++ formatKb m.memoryTotal
    ++ " (" ++ m.memory.fixed 0 ++ "%) buf " ++ formatKb m.buffers ++ " cache " ++ formatKb m.cached

def loadText (load : Load) : String :=
  "Load: " ++ load.one.fixed 2 ++ " " ++ load.five.fixed 2 ++ " " ++ load.fifteen.fixed 2

def statsText (s : Session) : String :=
  " " ++ String.intercalate "  |  "
    [tasksText s, loadText s.metrics.load, "CPU: " ++ Text.padLeft 5 (s.metrics.cpu.fixed 1) ++ "%",
     memoryText s.metrics, swapText s.metrics, "Refresh: " ++ s.intervalText]

/-- The state of the host. -/
def stats (row width : Nat) (s : Session) : List Stroke :=
  [.moveTo 0 row, .foreground .cyan, .print (Text.fit (statsText s) width), .plain]

/-- The message of the last key, or else the selected process. -/
def statusText (s : Session) : String × Colour :=
  match s.status with
  | some message => (" " ++ message, .yellow)
  | none =>
    if s.table.isEmpty then (" No matching processes", .darkGrey)
    else
      match s.table.selected? with
      | some p =>
        (" " ++ p.command ++ " (PID " ++ toString p.pid ++ ", parent " ++ toString p.parent ++ ")",
          .darkGrey)
      | none => ("", .darkGrey)

def status (row width : Nat) (s : Session) : List Stroke :=
  let (text, colour) := statusText s
  [.moveTo 0 row, .foreground colour, .print (Text.fit (Text.truncate text width) width), .plain]

/-- What the footer says, its background and its text colour. -/
def footerText (s : Session) : String × Colour × Colour :=
  match s.mode with
  | .filterEntry _ => (" Type to filter | Enter:Apply | Esc:Cancel", .darkYellow, .black)
  | .confirmKill _ _ => (" Kill process? y:Confirm | any other key:Cancel", .darkRed, .white)
  | _ =>
    if s.table.filter.isEmpty then
      (" h:Help | q:Quit | s:Sort | r:Reverse | f:Filter | x:Kill | +/-:Priority | [/]:Speed",
        .darkBlue, .white)
    else
      (" Filter: \"" ++ s.table.filter ++ "\" | f:Edit | c:Clear | q:Quit | h:Help",
        .darkYellow, .black)

/-- The keys of the moment, or the filter in use. -/
def footer (row width : Nat) (s : Session) : List Stroke :=
  let (text, ground, ink) := footerText s
  [.moveTo 0 row, .background ground, .foreground ink,
    .print (Text.fit (Text.truncate text width) width), .plain]

end ProcessMonitor.Screen
