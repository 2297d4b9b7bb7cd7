-- The boxes that ask or tell: the question before a process is ended, the line
-- in which a filter is typed, and the list of keys.
import ProcessMonitor.Screen.Box

namespace ProcessMonitor.Screen

/-- The width of the boxes that ask. -/
def promptWidth : Nat := 56

/-- The width of the list of keys. -/
def helpWidth : Nat := 52

/-- The columns of the keys in their list. -/
def helpKeyWidth : Nat := 14

/-- Asks whether to end a process. -/
def killQuestion (width height : Nat) (pid : Int) (command : String) : List Stroke :=
  let inner := min promptWidth width - 2
  modal width height promptWidth .darkRed " Kill Process "
    [(" Send SIGTERM to PID " ++ toString pid ++ "?", .white),
     (" " ++ Text.truncate command (inner - 2), .grey),
     ("", .white),
     (" y: Confirm    any other key: Cancel", .yellow),
     ("", .white)]

/-- Shows the end of the filter typed so far, and the cursor behind it. -/
def filterLine (width height : Nat) (buffer : String) : List Stroke :=
  let room := min promptWidth width - 5
  modal width height promptWidth .darkBlue " Filter (command or user) "
    [(" " ++ Text.clipTail buffer room ++ "█", .white),
     ("", .white),
     (" Enter: Apply    Esc: Cancel", .yellow)]

/-- Each key with what it does. A line without a meaning is a heading or
blank. -/
def helpLines : List (String × String) :=
  [("NAVIGATION", ""),
   ("  Up/k Down/j", "Move selection up/down"),
   ("  PgUp/PgDn", "Move by a page"),
   ("  Home/End", "Jump to first/last process"),
   ("", ""),
   ("PROCESS ACTIONS", ""),
   ("  x / Del", "Send SIGTERM (asks first)"),
   ("  + / -", "Raise/Lower priority"),
   ("", ""),
   ("VIEW OPTIONS", ""),
   ("  s / F6", "Cycle sort column"),
   ("  r", "Reverse sort order"),
   ("  f or /", "Filter by command or user"),
   ("  c / Esc", "Clear filter"),
   ("", ""),
   ("SETTINGS", ""),
   ("  [", "Slow down refresh"),
   ("  ]", "Speed up refresh"),
   ("  F5", "Refresh now"),
   ("", ""),
   ("OTHER", ""),
   ("  h / ?", "Show this help"),
   ("  q", "Quit application"),
   ("  Ctrl+C", "Quit application")]

/-- A line of the list of keys with its colour. -/
def helpLine (keys meaning : String) : String × Colour :=
  if meaning.isEmpty then (" " ++ keys, .cyan)
  else (" " ++ Text.padRight helpKeyWidth keys ++ meaning, .green)

/-- Shows the list of keys, as much of it as fits. -/
def help (width height : Nat) : List Stroke :=
  modal width height helpWidth .darkBlue " Keyboard Shortcuts "
    (("", .white) :: helpLines.map (fun (keys, meaning) => helpLine keys meaning)
      ++ [("        Press any key to close", .yellow)])

end ProcessMonitor.Screen
