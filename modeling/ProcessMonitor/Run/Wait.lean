-- Waiting for input in short slices, so that a request to stop is seen soon.
-- The clock, the requests to stop and the answers of the polls are a script.

namespace ProcessMonitor.Run

/-- Why the terminal failed, as the system tells it. -/
structure Fault where
  text : String
deriving DecidableEq, Repr

/-- One turn of the wait as the outside answers it. -/
structure Poll where
  /-- Whether a stop was asked for before the poll. -/
  stopped : Bool
  /-- The clock before the poll. -/
  now : Nat
  /-- Whether there was input. -/
  answer : Except Fault Bool

/-- How a wait ends. -/
inductive WaitEnd where
  | ready
  | timeout
  | stopped
  | failed (fault : Fault)
  /-- The script ends before the wait does. -/
  | unfinished
deriving DecidableEq, Repr

/-- The waits that were asked for, in order, and how it ended. -/
structure Waited where
  waits : List Nat
  ending : WaitEnd
deriving DecidableEq, Repr

/-- Polls with waits of at most `slice` until there is input, the deadline has
passed, or a stop is asked for. -/
def waitSliced (deadline slice : Nat) : List Poll → Waited
  | [] => ⟨[], .unfinished⟩
  | poll :: rest =>
    if poll.stopped then ⟨[], .stopped⟩
    else
      let remaining := deadline - poll.now
      let wait := min remaining slice
      match poll.answer with
      | .error fault => ⟨[wait], .failed fault⟩
      | .ok true => ⟨[wait], .ready⟩
      | .ok false =>
        if remaining ≤ slice then ⟨[wait], .timeout⟩
        else
          let more := waitSliced deadline slice rest
          ⟨wait :: more.waits, more.ending⟩

end ProcessMonitor.Run
