-- What each key does in each mode. The message of the last key goes with every
-- new one, and the interrupt key quits from everywhere.
import ProcessMonitor.Session.Basic
import ProcessMonitor.Session.Key

namespace ProcessMonitor

/-- What the main loop does after a key. -/
inductive Action where
  | stay
  /-- Take a pass before the next frame. -/
  | refresh
  | quit
deriving DecidableEq, Repr

/-- The text without its last character. -/
def dropLastChar (text : String) : String := String.ofList text.toList.dropLast

namespace Session

/-- A step that changes the session alone. -/
def step (s : Session) (action : Action := .stay) : Effect × Action := ({ session := s }, action)

/-- Keys over the list of keys: any key but the quit keys closes it. -/
def pressHelp (s : Session) (key : Key) : Effect × Action :=
  if key.isQuit then s.step .quit else { s with mode := .normal }.step

/-- Keys over the question whether to end a process: only yes ends it. -/
def pressConfirm (s : Session) (control : Controller) (key : Key) : Effect × Action :=
  if key.code == .char 'y' || key.code == .char 'Y' then (s.confirmKill control, .refresh)
  else if key.isQuit then s.step .quit
  else s.cancelKill.step

/-- Keys while a filter is typed. Nothing but its two ends leaves this mode. -/
def pressFilter (s : Session) (buffer : String) (key : Key) : Effect × Action :=
  match key.code with
  | .escape => { s with mode := .normal }.step
  | .enter => { s with mode := .normal, table := s.table.setFilter buffer }.step
  | .backspace => { s with mode := .filterEntry (dropLastChar buffer) }.step
  | .char c =>
    if key.control || key.alt then s.step else { s with mode := .filterEntry (buffer.push c) }.step
  | _ => s.step

/-- A step that changes the list alone. -/
def onTable (s : Session) (change : Table → Table) : Effect × Action :=
  { s with table := change s.table }.step

/-- Keys over the process list. -/
def pressNormal (s : Session) (control : Controller) (key : Key) : Effect × Action :=
  match key.code with
  | .char 'q' | .char 'Q' => s.step .quit
  | .up | .char 'k' => s.onTable (·.move (-1))
  | .down | .char 'j' => s.onTable (·.move 1)
  | .pageUp => s.onTable (·.page (-1))
  | .pageDown => s.onTable (·.page 1)
  | .home => s.onTable (·.toStart)
  | .endKey => s.onTable (·.toEnd)
  | .char 's' | .char 'S' | .function 6 => s.onTable (·.cycleColumn)
  | .char 'r' | .char 'R' => s.onTable (·.reverse)
  | .char 'f' | .char 'F' | .char '/' => { s with mode := .filterEntry s.table.filter }.step
  | .char 'c' | .char 'C' | .escape => s.onTable (·.clearFilter)
  | .char 'x' | .char 'X' | .delete => s.requestKill.step
  | .char '+' | .char '=' => (s.raisePriority control, .refresh)
  | .char '-' | .char '_' => (s.lowerPriority control, .refresh)
  | .char 'h' | .char 'H' | .char '?' | .function 1 => { s with mode := .help }.step
  | .char '[' => (s.slower, .stay)
  | .char ']' => (s.faster, .stay)
  | .function 5 => s.step .refresh
  | _ => s.step

/-- Handles one key press. -/
def press (s : Session) (control : Controller) (key : Key) : Effect × Action :=
  let s := { s with status := none }
  if key.isInterrupt then s.step .quit
  else
    match s.mode with
    | .normal => s.pressNormal control key
    | .filterEntry buffer => s.pressFilter buffer key
    | .confirmKill _ _ => s.pressConfirm control key
    | .help => s.pressHelp key

end Session

end ProcessMonitor
