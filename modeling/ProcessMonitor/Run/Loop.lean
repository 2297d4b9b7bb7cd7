-- The main loop: draw a frame, wait for a key or the next pass, and again,
-- until a key quits, a stop is asked for or the terminal fails. What the
-- outside answers in each turn is a script, and what the loop does is a list of
-- deeds in order.
import ProcessMonitor.Run.Input
import ProcessMonitor.Screen.Frame
import ProcessMonitor.Session.Press

namespace ProcessMonitor.Run

/-! ## The outside -/

/-- How the terminal takes a frame: whole, or only its first characters, with those
that a buffer hands over after the frame broke off. -/
inductive Drawing where
  | whole
  | broken (characters : Nat) (fault : Fault)
deriving DecidableEq, Repr

/-- One turn of the loop as the outside answers it. Times are in
milliseconds. -/
structure Turn (World : Type) where
  /-- Whether a stop is asked for at the top of the turn. -/
  stopped : Bool
  size : Except Fault (Nat × Nat)
  /-- The time of day for the header. -/
  clock : String
  drawing : Drawing
  /-- The host from here on. -/
  world : World
  /-- The time when the wait begins. -/
  waiting : Nat
  polls : List InputPoll
  /-- What reading the input gives. -/
  event : Except InputError Event
  /-- The time when the interval is checked. -/
  checked : Nat
  /-- The time after the pass, if one is taken. -/
  sampled : Nat

/-- How the host is read and who carries out requests. Reading may remember
things, and a request may be answered by what was asked before it. -/
structure Outside (World Memory : Type) where
  read : World → Memory → Reading × Memory × List Log.Entry
  control : World → List Request → Controller

/-! ## Deeds -/

inductive Deed where
  /-- The screen was taken over, by this text. -/
  | entered (text : String)
  | drew (strokes : List Screen.Stroke)
  | handled (key : Key)
  | sampled (reading : Reading)
  | requested (request : Request)
  | reported (entry : Log.Entry)
  /-- A line was written to the error output, which is not the screen. -/
  | told (line : String)
  /-- The screen was given back. -/
  | restored

/-- The frames among deeds, in order. -/
def framesOf (deeds : List Deed) : List (List Screen.Stroke) :=
  deeds.filterMap fun
    | .drew strokes => some strokes
    | _ => none

/-- The reports among deeds, in order. -/
def reportsOf (deeds : List Deed) : List Log.Entry :=
  deeds.filterMap fun
    | .reported entry => some entry
    | _ => none

/-- The lines on the error output among deeds, in order. -/
def toldOf (deeds : List Deed) : List String :=
  deeds.filterMap fun
    | .told line => some line
    | _ => none

/-- How the loop ends. -/
inductive LoopEnd where
  | quit
  | stopped
  | failed (message : String)
  /-- The script ends before the loop does. -/
  | unfinished
deriving DecidableEq, Repr

/-- The state of the loop between two turns. -/
structure State (Memory : Type) where
  session : Session
  memory : Memory
  /-- The time of the last pass. -/
  lastPass : Nat
  /-- The requests made so far, in order. -/
  requests : List Request

/-- What one turn does: the state after it, its deeds, and the end of the loop
if it is the last turn. -/
structure Turned (Memory : Type) where
  state : State Memory
  deeds : List Deed
  ending : Option LoopEnd

/-- The loop at its end. -/
structure Finished (Memory : Type) where
  state : State Memory
  deeds : List Deed
  ending : LoopEnd

namespace Finished

/-- The same end after some deeds more. -/
def after {Memory : Type} (deeds : List Deed) (finished : Finished Memory) : Finished Memory :=
  { finished with deeds := deeds ++ finished.deeds }

end Finished

/-! ## Steps -/

section Steps

variable {World Memory : Type}

/-- The longest single wait, in milliseconds. -/
def pollSlice : Nat := 100

/-- Takes a pass. -/
def samplePass (outside : Outside World Memory) (world : World) (now : Nat)
    (state : State Memory) : State Memory × List Deed :=
  let (reading, memory, reports) := outside.read world state.memory
  let effect := state.session.refresh reading
  ({ state with session := effect.session, memory, lastPass := now },
    (reports.map Deed.reported) ++ [.sampled reading] ++ effect.reports.map Deed.reported)

/-- Handles a key. -/
def handleKey (outside : Outside World Memory) (world : World) (key : Key)
    (state : State Memory) : State Memory × Action × List Deed :=
  let (effect, action) := state.session.press (outside.control world state.requests) key
  ({ state with session := effect.session, requests := state.requests ++ effect.requests }, action,
    .handled key :: effect.requests.map Deed.requested ++ effect.reports.map Deed.reported)

/-- The state with the window of the list set for a screen, and its frame. -/
def prepareFrame (size : Nat × Nat) (clock : String) (state : State Memory) :
    State Memory × List Screen.Stroke :=
  let layout := Screen.Layout.compute size.1 size.2 state.session.history.cores.length
  let session := { state.session with table := state.session.table.setRows layout.tableRows }
  ({ state with session }, Screen.frame session layout clock)

/-- The end of the wait of a turn. -/
def waitTurn (turn : Turn World) (state : State Memory) : WaitEnd :=
  let timeout := state.session.interval - (turn.waiting - state.lastPass)
  (waitSliced (turn.waiting + timeout) pollSlice (turn.polls.map InputPoll.toPoll)).ending

/-- The key that is pressed while a turn waits, if any, or why the loop ends there. -/
def turnKey (turn : Turn World) (state : State Memory) : Except LoopEnd (Option Key) :=
  match waitTurn turn state with
  | .failed fault => .error (.failed fault.text)
  | .unfinished => .error .unfinished
  | .timeout | .stopped => .ok none
  | .ready =>
    (settle none (turn.event.map Event.press?)).mapError fun fault => .failed fault.text

/-- Takes a pass when a key asked for it or the interval has passed. -/
def finishTurn (outside : Outside World Memory) (turn : Turn World) (asked : Bool)
    (state : State Memory) : State Memory × List Deed :=
  if asked || turn.checked - state.lastPass ≥ state.session.interval then
    samplePass outside turn.world turn.sampled state
  else (state, [])

/-- The report of a loop that was asked to stop. -/
def stopReport : Log.Entry := ⟨.info, .program, "stop requested by signal"⟩

/-- What follows a frame: the key that was read, if any, and a pass if one is
due. -/
def afterFrame (outside : Outside World Memory) (turn : Turn World) (frame : List Screen.Stroke)
    (state : State Memory) : Turned Memory :=
  match turnKey turn state with
  | .error ending => ⟨state, [.drew frame], some ending⟩
  | .ok none =>
    let (state, deeds) := finishTurn outside turn false state
    ⟨state, .drew frame :: deeds, none⟩
  | .ok (some key) =>
    let (state, action, deeds) := handleKey outside turn.world key state
    if action = .quit then ⟨state, .drew frame :: deeds, some .quit⟩
    else
      let (state, more) := finishTurn outside turn (action = .refresh) state
      ⟨state, .drew frame :: deeds ++ more, none⟩

/-- Takes one turn: the frame, the wait, the key and the pass. -/
def takeTurn (outside : Outside World Memory) (turn : Turn World) (state : State Memory) :
    Turned Memory :=
  if turn.stopped then ⟨state, [.reported stopReport], some .stopped⟩
  else
    match turn.size with
    | .error fault => ⟨state, [], some (.failed ("cannot query terminal size: " ++ fault.text))⟩
    | .ok size =>
      let (state, frame) := prepareFrame size turn.clock state
      match turn.drawing with
      | .broken characters fault =>
        ⟨state, [.drew (Screen.Stroke.cut characters frame)], some (.failed fault.text)⟩
      | .whole => afterFrame outside turn frame state

/-! ## The loop -/

/-- Goes through the turns of the script until one of them ends the loop. -/
def loop (outside : Outside World Memory) : State Memory → List (Turn World) → Finished Memory
  | state, [] => ⟨state, [], .unfinished⟩
  | state, turn :: rest =>
    let turned := takeTurn outside turn state
    match turned.ending with
    | some ending => ⟨turned.state, turned.deeds, ending⟩
    | none => (loop outside turned.state rest).after turned.deeds

end Steps

end ProcessMonitor.Run
