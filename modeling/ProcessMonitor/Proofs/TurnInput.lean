-- What a turn of the main loop reads. Its wait goes past the polls that find nothing, as
-- long as the interval is not over, and comes to one that finds input or fails. What is
-- read behind it is a key only where a key is pressed.
import ProcessMonitor.Run.Loop

namespace ProcessMonitor.Run

/-! ## The wait -/

/-- The wait goes past a poll: no stop is asked for, no input is there or a signal comes in
between, and more than a slice of the time is left. -/
structure InputPoll.GoesOn (deadline slice : Nat) (poll : InputPoll) : Prop where
  notStopped : poll.stopped = false
  noInput : poll.answer = .ok false ∨ poll.answer = .error .interrupted
  left : slice < deadline - poll.now

/-- The wait comes to a poll with this answer. -/
def ComesTo (deadline slice : Nat) (polls : List InputPoll)
    (answer : Except InputError Bool) : Prop :=
  ∃ before poll after, polls = before ++ poll :: after ∧
    (∀ earlier ∈ before, earlier.GoesOn deadline slice) ∧
    poll.stopped = false ∧ poll.answer = answer

/-- An answer that ends a wait, and how it does. -/
inductive EndsBy : Except InputError Bool → WaitEnd → Prop
  | found : EndsBy (.ok true) .ready
  | failed (fault : Fault) : EndsBy (.error (.failed fault)) (.failed fault)

section Wait

variable {deadline slice : Nat} {answer : Except InputError Bool}

theorem not_comesTo_nil : ¬ ComesTo deadline slice [] answer := by
  rintro ⟨before, poll, after, h, -⟩
  simp at h

theorem comesTo_cons {poll : InputPoll} {rest : List InputPoll} :
    ComesTo deadline slice (poll :: rest) answer ↔
      poll.stopped = false ∧ poll.answer = answer ∨
        poll.GoesOn deadline slice ∧ ComesTo deadline slice rest answer := by
  constructor
  · rintro ⟨before, other, after, h, hbefore, hother⟩
    cases before with
    | nil =>
      obtain ⟨rfl, rfl⟩ := List.cons.inj h
      exact Or.inl hother
    | cons first before =>
      obtain ⟨rfl, rfl⟩ := List.cons.inj h
      obtain ⟨hfirst, hbefore⟩ := List.forall_mem_cons.mp hbefore
      exact Or.inr ⟨hfirst, before, other, after, rfl, hbefore, hother⟩
  · rintro (h | ⟨hpoll, before, other, after, rfl, hbefore, hother⟩)
    · exact ⟨[], poll, rest, rfl, List.forall_mem_nil _, h⟩
    · exact ⟨poll :: before, other, after, rfl, List.forall_mem_cons.mpr ⟨hpoll, hbefore⟩, hother⟩

variable {poll : InputPoll} {ending : WaitEnd}

theorem ending_of_goesOn (h : poll.GoesOn deadline slice) (rest : List Poll) :
    (waitSliced deadline slice (poll.toPoll :: rest)).ending =
      (waitSliced deadline slice rest).ending := by
  have hleft : ¬ deadline - poll.now ≤ slice := Nat.not_le_of_lt h.left
  rcases h.noInput with hanswer | hanswer <;>
    simp [waitSliced, InputPoll.toPoll, settle, h.notStopped, hanswer, hleft]

/-- A poll that the wait does not go past ends it by its own answer, or by its time. -/
theorem ending_of_not_goesOn (hends : EndsBy answer ending) (h : ¬ poll.GoesOn deadline slice)
    (rest : List Poll) :
    (waitSliced deadline slice (poll.toPoll :: rest)).ending = ending ↔
      poll.stopped = false ∧ poll.answer = answer := by
  obtain ⟨stopped, now, reply⟩ := poll
  cases stopped with
  | true => cases hends <;> simp [waitSliced, InputPoll.toPoll]
  | false =>
    have hover (hreply : reply = .ok false ∨ reply = .error .interrupted) :
        deadline - now ≤ slice :=
      Nat.le_of_not_lt fun hleft => h ⟨rfl, hreply, hleft⟩
    rcases reply with (_ | fault) | (_ | _)
    · cases hends <;> simp [waitSliced, InputPoll.toPoll, settle, hover]
    · cases hends <;> simp [waitSliced, InputPoll.toPoll, settle]
    · cases hends <;> simp [waitSliced, InputPoll.toPoll, settle, hover]
    · cases hends <;> simp [waitSliced, InputPoll.toPoll, settle]

/-- A wait ends in one of these ways exactly when it comes to a poll with such an answer. -/
theorem ending_eq_iff (hends : EndsBy answer ending) (polls : List InputPoll) :
    (waitSliced deadline slice (polls.map InputPoll.toPoll)).ending = ending ↔
      ComesTo deadline slice polls answer := by
  induction polls with
  | nil =>
    refine iff_of_false ?_ not_comesTo_nil
    cases hends <;> simp [waitSliced]
  | cons poll rest ih =>
    rw [comesTo_cons, List.map_cons]
    by_cases hgoes : poll.GoesOn deadline slice
    · have hother : poll.answer ≠ answer := by
        rcases hgoes.noInput with h | h <;> cases hends <;> simp [h]
      rw [ending_of_goesOn hgoes, ih]
      simp [hgoes, hother]
    · rw [ending_of_not_goesOn hends hgoes]
      simp [hgoes]

end Wait

/-! ## A turn -/

section Turns

variable {World Memory : Type}

/-- The time when the interval since the last pass is over. A wait that begins later is over
at once. -/
def deadlineOf (state : State Memory) (turn : Turn World) : Nat :=
  turn.waiting + (state.session.interval - (turn.waiting - state.lastPass))

/-- The wait of a turn comes to a poll with this answer, in slices of 100 milliseconds. -/
def Gets (state : State Memory) (turn : Turn World) (answer : Except InputError Bool) : Prop :=
  ComesTo (deadlineOf state turn) 100 turn.polls answer

/-- The turn sees no stop and draws a whole frame. -/
structure Shows (turn : Turn World) (size : Nat × Nat) : Prop where
  go : turn.stopped = false
  size : turn.size = .ok size
  whole : turn.drawing = .whole

/-- The turn reads a key: behind the frame its wait finds input, and there the key is pressed. -/
structure Reads (state : State Memory) (turn : Turn World) (key : Key) : Prop where
  shows : ∃ size, Shows turn size
  found : Gets state turn (.ok true)
  event : turn.event = .ok (.key .press key)

/-- The turn meets a fault: the terminal does not tell its size, breaks the frame off, or cannot
be waited for or read from. -/
inductive Meets (state : State Memory) (turn : Turn World) (fault : Fault) : Prop
  | size (go : turn.stopped = false) (h : turn.size = .error fault)
  | frame (go : turn.stopped = false) {size : Nat × Nat} (hsize : turn.size = .ok size)
      {characters : Nat} (h : turn.drawing = .broken characters fault)
  | wait {size : Nat × Nat} (hshows : Shows turn size)
      (h : Gets state turn (.error (.failed fault)))
  | read {size : Nat × Nat} (hshows : Shows turn size) (found : Gets state turn (.ok true))
      (h : turn.event = .error (.failed fault))

/-- The key press that a turn reads in a state. -/
def keyOf (state : State Memory) (turn : Turn World) : Option Key :=
  if turn.stopped then none
  else
    match turn.size, turn.drawing, waitTurn turn state, turn.event with
    | .ok _, .whole, .ready, .ok (.key .press key) => some key
    | _, _, _, _ => none

/-- The fault that a turn meets in a state. -/
def faultOf (state : State Memory) (turn : Turn World) : Option Fault :=
  if turn.stopped then none
  else
    match turn.size, turn.drawing, waitTurn turn state, turn.event with
    | .error fault, _, _, _ => some fault
    | .ok _, .broken _ fault, _, _ => some fault
    | .ok _, .whole, .failed fault, _ => some fault
    | .ok _, .whole, .ready, .error (.failed fault) => some fault
    | _, _, _, _ => none

variable (state : State Memory) (turn : Turn World)

theorem waitTurn_eq_iff {answer : Except InputError Bool} {ending : WaitEnd}
    (hends : EndsBy answer ending) : waitTurn turn state = ending ↔ Gets state turn answer :=
  ending_eq_iff hends turn.polls

theorem keyOf_eq_some_iff (key : Key) : keyOf state turn = some key ↔ Reads state turn key := by
  have hready := waitTurn_eq_iff state turn EndsBy.found
  constructor
  · intro h
    unfold keyOf at h
    split at h
    · cases h
    · rename_i hgo
      split at h
      · rename_i hsize hwhole hwait hevent
        obtain rfl := Option.some.inj h
        exact ⟨⟨_, by simpa using hgo, hsize, hwhole⟩, hready.mp hwait, hevent⟩
      · cases h
  · rintro ⟨⟨size, hgo, hsize, hwhole⟩, hfound, hevent⟩
    simp [keyOf, hgo, hsize, hwhole, hready.mpr hfound, hevent]

theorem faultOf_eq_some_iff (fault : Fault) :
    faultOf state turn = some fault ↔ Meets state turn fault := by
  have hready := waitTurn_eq_iff state turn EndsBy.found
  have hfailed := waitTurn_eq_iff state turn (EndsBy.failed fault)
  constructor
  · intro h
    unfold faultOf at h
    split at h
    · cases h
    · rename_i hstopped
      have hgo : turn.stopped = false := by simpa using hstopped
      split at h
      · rename_i hsize
        obtain rfl := Option.some.inj h
        exact .size hgo hsize
      · rename_i hsize hbroken
        obtain rfl := Option.some.inj h
        exact .frame hgo hsize hbroken
      · rename_i hsize hwhole hwait
        obtain rfl := Option.some.inj h
        exact .wait ⟨hgo, hsize, hwhole⟩ (hfailed.mp hwait)
      · rename_i hsize hwhole hwait hevent
        obtain rfl := Option.some.inj h
        exact .read ⟨hgo, hsize, hwhole⟩ (hready.mp hwait) hevent
      · cases h
  · intro h
    cases h with
    | size hgo hsize => simp [faultOf, hgo, hsize]
    | frame hgo hsize hbroken => simp [faultOf, hgo, hsize, hbroken]
    | wait hshows h =>
      simp [faultOf, hshows.go, hshows.size, hshows.whole, hfailed.mpr h]
    | read hshows hfound hevent =>
      simp [faultOf, hshows.go, hshows.size, hshows.whole, hready.mpr hfound, hevent]

end Turns

end ProcessMonitor.Run
