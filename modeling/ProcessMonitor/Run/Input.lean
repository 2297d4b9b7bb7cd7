-- Input from the terminal. Only a key that is pressed counts. A signal that comes in
-- between is no failure: a poll then found nothing, and a read gave no key.
import ProcessMonitor.Run.Wait
import ProcessMonitor.Session.Key

namespace ProcessMonitor.Run

/-- Why the input gave no answer. -/
inductive InputError where
  /-- A signal came in between. -/
  | interrupted
  | failed (fault : Fault)
deriving DecidableEq, Repr

inductive KeyKind where
  | press
  /-- A key that is held down. -/
  | again
  | release
deriving DecidableEq, Repr

inductive Event where
  | key (kind : KeyKind) (key : Key)
  /-- The screen has a new size. -/
  | resize (columns rows : Nat)
  /-- The focus, the mouse or a text that was pasted. -/
  | other
deriving DecidableEq, Repr

/-- The key that was pressed. -/
def Event.press? : Event → Option Key
  | .key .press pressed => some pressed
  | _ => none

/-- An answer of the input, or `nothing` where a signal came in between. -/
def settle {α : Type} (nothing : α) : Except InputError α → Except Fault α
  | .ok value => .ok value
  | .error .interrupted => .ok nothing
  | .error (.failed fault) => .error fault

/-- One turn of a wait for input as the terminal answers it. -/
structure InputPoll where
  /-- Whether a stop was asked for before the poll. -/
  stopped : Bool
  /-- The clock before the poll. -/
  now : Nat
  /-- Whether there was input. -/
  answer : Except InputError Bool

/-- The poll as the wait takes it. -/
def InputPoll.toPoll (poll : InputPoll) : Poll :=
  ⟨poll.stopped, poll.now, settle false poll.answer⟩

end ProcessMonitor.Run
