-- Scripts of a run from the things that happen while it waits: keys, a new size
-- of the screen, requests to stop, and time that passes.
import ProcessMonitor.Run.Loop

namespace ProcessMonitor.Run

/-- Something that happens after a frame. -/
inductive Occurrence (World : Type) where
  | key (key : Key)
  /-- The screen has a new size from the next frame on. -/
  | resize (size : Nat × Nat)
  /-- An event that is no key. -/
  | other
  /-- A request to stop. -/
  | stop
  /-- Nothing until the wait runs out. -/
  | idle
  /-- The host changes. This ends no wait; the next occurrence follows after the
  same frame. -/
  | change (world : World)

/-- A script under construction: the host, the size of the screen and the time
at its end, the occurrences used, the turns, and for each turn how many
occurrences it and those before it used. -/
structure Script (World : Type) where
  world : World
  size : Nat × Nat
  clock : String
  time : Nat := 0
  used : Nat := 0
  turns : Array (Turn World) := #[]
  places : Array Nat := #[]

namespace Script

variable {World : Type}

/-- Longer than any interval that is waited out. -/
def longWait : Nat := 1000000000

/-- Adds a turn that ends `passed` milliseconds later. -/
def addTurn (s : Script World) (stopped : Bool) (polls : List InputPoll) (event : Event)
    (passed : Nat) : Script World :=
  let turn : Turn World :=
    { stopped, size := .ok s.size, clock := s.clock, drawing := .whole, world := s.world,
      waiting := s.time, polls, event := .ok event, checked := s.time + passed,
      sampled := s.time + passed }
  { s with
    turns := s.turns.push turn
    places := s.places.push s.used
    time := s.time + passed }

/-- Adds a turn in which input is there at once. -/
def addReady (s : Script World) (event : Event) : Script World :=
  s.addTurn false [⟨false, s.time, .ok true⟩] event 0

/-- Adds what one occurrence makes happen. -/
def add (s : Script World) (occurrence : Occurrence World) : Script World :=
  let s := { s with used := s.used + 1 }
  match occurrence with
  | .key key => s.addReady (.key .press key)
  | .resize size => { s.addReady (.resize size.1 size.2) with size }
  | .other => s.addReady .other
  | .stop => (s.addTurn false [⟨true, s.time, .ok false⟩] .other 0).addTurn true [] .other 0
  | .idle => s.addTurn false [⟨false, s.time + longWait, .ok false⟩] .other longWait
  | .change world => { s with world }

/-- The script of occurrences one after the other, with the interrupt key behind
the last one. -/
def ofOccurrences (world : World) (size : Nat × Nat) (clock : String)
    (occurrences : List (Occurrence World)) : Script World :=
  (occurrences.foldl add { world, size, clock }).addReady
    (.key .press ⟨.char 'c', true, false, false⟩)

/-- How many occurrences a loop that drew `frames` frames left unused. -/
def unused (s : Script World) (frames : Nat) : Nat :=
  s.used - (if frames == 0 then 0 else s.places.getD (frames - 1) s.used)

end Script

end ProcessMonitor.Run
