-- The whole program: take reports, read the host, take over the screen, go
-- through the loop, give the screen back. The screen is given back on every way
-- out on which it was taken over.
import ProcessMonitor.CommandLine.Help
import ProcessMonitor.CommandLine.Options
import ProcessMonitor.Log.File
import ProcessMonitor.Proc.Root
import ProcessMonitor.Run.Loop

namespace ProcessMonitor.Run

/-! ## The screen -/

/-- Takes over the screen: an empty one, no wrapping of lines, no cursor. -/
def enterSequence : String := "\x1b[?1049h\x1b[?7l\x1b[?25l"

/-- Gives the screen back. -/
def restoreSequence : String := "\x1b[0m\x1b[?25h\x1b[?7h\x1b[?1049l"

/-- How the terminal lets its screen be taken over. -/
inductive Entering where
  | done
  /-- Single keys cannot be read. Nothing was written yet. -/
  | noRawMode (fault : Fault)
  /-- Only the first characters of the sequence could be written. -/
  | broken (written : Nat) (fault : Fault)
deriving DecidableEq, Repr

/-- What a deed writes to the terminal. -/
def Deed.written : Deed → String
  | .entered text => text
  | .drew strokes => Screen.Stroke.encodeAll strokes
  | .restored => restoreSequence
  | _ => ""

/-! ## The run -/

/-- The outside of a run, apart from the turns of its loop. -/
structure Setting (World Memory : Type) where
  outside : Outside World Memory
  /-- How the system answers to opening the file of reports. -/
  opens : String → Except String Unit
  /-- The place of that file in the environment. -/
  logVariable : Option String
  /-- Why signals cannot be handled, if they cannot. -/
  signals : Option Fault
  world : World
  memory : Memory
  hostName : String × List Log.Entry
  entering : Entering
  /-- The time when the loop begins. -/
  begins : Nat

/-- A run at the point where it takes over the screen: the state after the first
pass, or why it got no further, and its deeds so far. -/
structure Started (Memory : Type) where
  state : Except String (State Memory)
  deeds : List Deed

/-- A run at its end: what it did, and an error if it failed. -/
structure Ran (Memory : Type) where
  /-- The last state, where the run got as far as its first pass. -/
  state : Option (State Memory)
  deeds : List Deed
  error : Option String
  /-- False when the script ends before the run does. -/
  finished : Bool := true

/-- The report at the start of a run. -/
def startReport (session : Session) : Log.Entry :=
  ⟨.info, .program,
    "starting: refresh " ++ toString session.interval ++ "ms, sort " ++ session.table.column.name
      ++ (if session.table.descending then " desc" else " asc")⟩

/-- The error of a loop, if it ended by one. -/
def LoopEnd.error? : LoopEnd → Option String
  | .failed message => some message
  | _ => none

/-- The report of a loop that ended without an error. -/
def exitReports : LoopEnd → List Deed
  | .quit | .stopped => [.reported ⟨.info, .program, "exiting"⟩]
  | _ => []

section

variable {World Memory : Type}

/-- The part of the run that holds the screen. -/
def onScreen (setting : Setting World Memory) (state : State Memory) (turns : List (Turn World)) :
    Ran Memory :=
  match setting.entering with
  | .noRawMode fault =>
    { state := some state
      deeds := []
      error := some ("cannot initialize terminal: " ++ fault.text) }
  | .broken written fault =>
    { state := some state
      deeds := [.entered (String.ofList (enterSequence.toList.take written)), .restored]
      error := some ("cannot initialize terminal: " ++ fault.text) }
  | .done =>
    let finished := loop setting.outside state turns
    { state := some finished.state
      deeds := .entered enterSequence
        :: finished.deeds ++ exitReports finished.ending ++ [.restored]
      error := finished.ending.error?
      finished := finished.ending != .unfinished }

/-- The part of the run before the screen is taken over: the file of reports,
the signals and the first pass. -/
def start (setting : Setting World Memory) (options : CommandLine.Options) : Started Memory :=
  match Log.start false setting.opens options.logFile setting.logVariable with
  | .error e => ⟨.error e.message, []⟩
  | .ok path =>
    let opened : List Deed := path.toList.map fun path =>
      .reported ⟨.info, .program, "logging to " ++ path⟩
    match setting.signals with
    | some fault => ⟨.error ("cannot install signal handlers: " ++ fault.text), opened⟩
    | none =>
      let (name, nameReports) := setting.hostName
      let session := { options.session with hostname := name }
      let (state, deeds) := samplePass setting.outside setting.world setting.begins
        ⟨session, setting.memory, setting.begins, []⟩
      ⟨.ok state,
        opened ++ nameReports.map Deed.reported ++ [.reported (startReport session)] ++ deeds⟩

/-- Runs the program with the given options. -/
def run (setting : Setting World Memory) (options : CommandLine.Options)
    (turns : List (Turn World)) : Ran Memory :=
  let started := start setting options
  match started.state with
  | .error message => { state := none, deeds := started.deeds, error := some message }
  | .ok state =>
    let ran := onScreen setting state turns
    { ran with deeds := started.deeds ++ ran.deeds }

/-- What is said of an error: a last report, and a line for whoever called the program. -/
def errorDeeds (message : String) : List Deed :=
  [.reported ⟨.error, .program, message⟩, .told (CommandLine.commandName ++ ": " ++ message)]

/-- The exit code of a run. -/
def Ran.exitCode (ran : Ran Memory) : Nat := if ran.error.isSome then 1 else 0

/-- The whole program: the run, and what is said of its error. -/
def program (setting : Setting World Memory) (options : CommandLine.Options)
    (turns : List (Turn World)) : Ran Memory :=
  let ran := run setting options turns
  { ran with deeds := ran.deeds ++ ran.error.toList.flatMap errorDeeds }

/-- What deeds write to the terminal, cut behind each frame. What follows the
last frame comes last. -/
def chunks : List Deed → List String
  | [] => [""]
  | deed :: rest =>
    match deed, chunks rest with
    | .drew _, more => deed.written :: more
    | _, first :: more => (deed.written ++ first) :: more
    | _, [] => [deed.written]

end

/-! ## The host as its files -/

/-- Reads the host from its files and remembers the names of users. -/
def rootOutside (kernel : Kernel) : Outside Proc.Root Proc.Owners :=
  { read := fun root owners =>
      let sighting := root.read owners
      (sighting.reading, sighting.owners, sighting.reports)
    control := fun _ _ => kernel.controller }

end ProcessMonitor.Run
