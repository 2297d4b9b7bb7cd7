-- The program: the files of this host are read, frames go to standard output
-- and keys come from standard input. There is no way to ask the kernel for
-- signals or priorities from here, so such requests are answered as refused.
import ProcessMonitor.CommandLine.Parse
import ProcessMonitor.Host.Clock
import ProcessMonitor.Proc.Users
import ProcessMonitor.Run.Program
import ProcessMonitor.Session.KeyText

namespace ProcessMonitor.Program

/-! ## The files of the host -/

/-- The text of a file, if it can be read. -/
def readText? (path : String) : IO (Option String) := do
  try
    pure (String.fromUTF8? (← IO.FS.readBinFile path))
  catch _ => pure none

/-- The directory of a process. -/
def directory (pid : Nat) : String := "/proc/" ++ toString pid

/-- The processes that a process started. -/
def childrenOf (pid : Nat) : IO (List Nat) := do
  let text ← readText? (directory pid ++ "/task/" ++ toString pid ++ "/children")
  pure ((Text.words (text.getD "").toList).filterMap natural32?)

/-- The pids that are reached from `waiting`; at most `room` of them. -/
def reachable : Nat → List Nat → IO (List Nat)
  | 0, _ => pure []
  | _, [] => pure []
  | room + 1, pid :: waiting => do
    let children ← childrenOf pid
    pure (pid :: (← reachable room (waiting ++ children)))

/-- The first process of all programs, and the first of the kernel. -/
def firstPids : List Nat := [1, 2]

def readEntry (pid : Nat) : IO Proc.ProcessEntry := do
  let status ← readText? (directory pid ++ "/status")
  pure
    { name := toString pid
      isDirectory := true
      uid := status.bind Proc.readUid?
      stat := ← readText? (directory pid ++ "/stat")
      cmdline := ← readText? (directory pid ++ "/cmdline") }

/-- The kilobytes of a page. -/
def pageKb : Nat := 4

def readRoot : IO Proc.Root := do
  let users ← readText? "/etc/passwd"
  let pids ← reachable Proc.maxProcesses firstPids
  let entries ← pids.mapM readEntry
  pure
    { stat := ← readText? Proc.Root.statPath
      meminfo := ← readText? Proc.Root.meminfoPath
      loadavg := ← readText? Proc.Root.loadavgPath
      hostname := ← readText? "/proc/sys/kernel/hostname"
      users := Proc.usersOf users
      entries := some entries
      pageKb }

/-- The time of day. -/
def clock : IO String := do
  let start := (← readText? Proc.Root.statPath).bind readStart?
  let uptime := (← readText? "/proc/uptime").bind readUptime?
  pure (clockText (start.getD 0 + uptime.getD 0))

/-! ## The terminal -/

def write (text : String) : IO Unit := do
  let out ← IO.getStdout
  out.putStr text
  out.flush

/-- A number that the environment holds. -/
def numberIn? (name : String) : IO (Option Nat) := do
  pure ((← IO.getEnv name).bind fun text => natural32? text.toList)

/-- The columns and rows of the screen. -/
def screenSize : IO (Nat × Nat) := do
  pure ((← numberIn? "COLUMNS").getD 80, (← numberIn? "LINES").getD 24)

/-- The input: keys that were not handled yet, and a read under way. -/
structure Input where
  keys : List Key := []
  reading : Option (Task (Except IO.Error ByteArray)) := none

namespace Input

/-- The keys of what was read. At the end of the input the interrupt key is
pressed. -/
def keysOf : Except IO.Error ByteArray → List Key
  | .ok bytes =>
    if bytes.isEmpty then [Key.ofChar '\x03'] else Key.ofText ((String.fromUTF8? bytes).getD "")
  | .error _ => [Key.ofChar '\x03']

/-- The milliseconds between two looks at the input. -/
def pause : Nat := 10

/-- Waits for a key in at most `looks` looks at the input. -/
def wait (input : Input) : Nat → IO (Option Key × Input)
  | looks => do
    if let key :: keys := input.keys then return (some key, { input with keys })
    let reading ← match input.reading with
      | some reading => pure reading
      | none => IO.asTask ((← IO.getStdin).read 64)
    for _ in List.range looks do
      unless ← IO.hasFinished reading do IO.sleep pause.toUInt32
    if ← IO.hasFinished reading then
      match keysOf reading.get with
      | key :: keys => return (some key, { keys })
      | [] => return (none, {})
    return (none, { input with reading := some reading })

end Input

/-! ## The reports -/

/-- The file that takes reports, and which ones it takes. -/
structure Journal where
  file : Option IO.FS.Handle
  filter : Log.Filter

/-- Opens the file of reports, and tells how that went. -/
def Journal.openAt (path : Option String) (filter : String) :
    IO (Journal × Except String Unit) := do
  let filter := Log.Filter.read filter
  match path with
  | none => pure (⟨none, filter⟩, .ok ())
  | some path =>
    try
      let file ← IO.FS.Handle.mk path .append
      pure (⟨some file, filter⟩, .ok ())
    catch e => pure (⟨none, filter⟩, .error (toString e))

/-- Writes the reports among deeds. -/
def Journal.write (journal : Journal) (deeds : List Run.Deed) : IO Unit := do
  if let some file := journal.file then
    let time ← clock
    for entry in (Run.reportsOf deeds).filter journal.filter.keeps do
      file.putStrLn (entry.line time)
    file.flush

/-! ## The run -/

/-- The refusal of a call that the host does not have. -/
def notImplemented : Errno := ⟨38⟩

/-- A kernel that refuses every call. -/
def kernel : Kernel :=
  let refused : KernelAnswer := ⟨-1, some notImplemented⟩
  ⟨fun _ _ => refused, fun _ => refused, fun _ _ => refused⟩

def outside : Run.Outside Proc.Root Proc.Owners := Run.rootOutside kernel

/-- True when the turn took a pass. -/
def tookPass (turned : Run.Turned Proc.Owners) : Bool :=
  turned.deeds.any fun
    | .sampled _ => true
    | _ => false

/-- Draws a frame, waits, and takes the turn. The files are read for a turn that
takes a pass only. -/
def takeTurn (root : Proc.Root) (state : Run.State Proc.Owners) (input : Input) :
    IO (Run.Turned Proc.Owners × Input) := do
  let size ← screenSize
  let clock ← clock
  write (Screen.Stroke.encodeAll (Run.prepareFrame size clock state).2)
  let waiting ← IO.monoMsNow
  let left := state.session.interval - (waiting - state.lastPass)
  let (key, input) ← input.wait (left / Input.pause + 1)
  let now ← IO.monoMsNow
  let turn : Run.Turn Proc.Root :=
    { stopped := false
      size := .ok size
      clock
      drawing := .whole
      world := root
      waiting
      polls := [⟨false, max now (waiting + left), .ok key.isSome⟩]
      event := .ok ((key.map (Run.Event.key .press)).getD .other)
      checked := now
      sampled := now }
  let turned := Run.takeTurn outside turn state
  if tookPass turned then
    pure (Run.takeTurn outside { turn with world := ← readRoot } state, input)
  else pure (turned, input)

/-- Takes turns until one of them is the last. -/
def takeTurns (journal : Journal) (root : Proc.Root) (start : Run.State Proc.Owners) :
    IO Run.LoopEnd := do
  let mut state := start
  let mut input : Input := {}
  let mut ending := none
  while ending.isNone do
    let (turned, rest) ← takeTurn root state input
    journal.write turned.deeds
    state := turned.state
    input := rest
    ending := turned.ending
  pure (ending.getD .unfinished)

/-- Tells of an error, and gives the exit code. -/
def fail (journal : Journal) (message : String) : IO UInt32 := do
  let deeds := Run.errorDeeds message
  journal.write deeds
  for line in Run.toldOf deeds do
    (← IO.getStderr).putStrLn line
  pure 1

/-- Runs the monitor on this host. -/
def monitor (options : CommandLine.Options) : IO UInt32 := do
  let logVariable ← IO.getEnv "HITOP_LOG"
  let filter := (← IO.getEnv "RUST_LOG").getD Log.Filter.defaultText
  let (journal, opened) ← Journal.openAt (Log.path? options.logFile logVariable) filter
  let root ← readRoot
  let setting : Run.Setting Proc.Root Proc.Owners :=
    { outside
      opens := fun _ => opened
      logVariable
      signals := none
      world := root
      memory := Proc.Owners.empty
      hostName := root.hostName
      entering := .done
      begins := ← IO.monoMsNow }
  let started := Run.start setting options
  journal.write started.deeds
  match started.state with
  | .error message => fail journal message
  | .ok state =>
    write Run.enterSequence
    let ending ← takeTurns journal root state
    journal.write (Run.exitReports ending)
    write Run.restoreSequence
    match ending.error? with
    | some message => fail journal message
    | none => pure 0

end ProcessMonitor.Program

/-- Runs the monitor with the arguments of the command line. -/
def main (arguments : List String) : IO UInt32 := do
  match ProcessMonitor.CommandLine.parse arguments with
  | .ok options => ProcessMonitor.Program.monitor options
  | .error refusal =>
    let out ← if refusal.exitCode == 0 then IO.getStdout else IO.getStderr
    out.putStr refusal.message
    pure refusal.exitCode.toUInt32
