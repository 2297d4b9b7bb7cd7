-- Keys as the terminal reports them.

namespace ProcessMonitor

inductive KeyCode where
  | char (c : Char)
  /-- A function key. -/
  | function (number : Nat)
  | up
  | down
  | left
  | right
  | pageUp
  | pageDown
  | home
  | endKey
  | enter
  | escape
  | backspace
  | delete
  | insert
  | tab
  | backTab
  | null
  /-- A key that the monitor gives no meaning: a lock, a media key, a modifier
  alone. -/
  | other (number : Nat)
deriving DecidableEq, Repr

/-- A key press with the modifiers held. -/
structure Key where
  code : KeyCode
  control : Bool := false
  alt : Bool := false
  shift : Bool := false
deriving DecidableEq, Repr

namespace Key

/-- The quit keys of every mode that does not take text. -/
def isQuit (key : Key) : Bool := key.code == .char 'q' || key.code == .char 'Q'

/-- The interrupt key, which quits from everywhere. -/
def isInterrupt (key : Key) : Bool := key.code == .char 'c' && key.control

end Key

end ProcessMonitor
