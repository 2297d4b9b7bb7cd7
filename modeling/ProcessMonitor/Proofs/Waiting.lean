-- The laws of the sliced wait. Each turn asks whether to stop, reads the clock, and polls
-- for a slice or for what is left of the time. On a clock that goes on while a poll waits,
-- each poll behind which the wait goes on uses up a whole slice, so the slices of the time
-- count the polls, and a wait that finds nothing ends when the time is over.
import ProcessMonitor.Run.Wait

namespace ProcessMonitor.Run

/-- What a wait tells the one who waits: whether there is input, or why it failed. -/
def WaitEnd.returned : WaitEnd → Option (Except Fault Bool)
  | .ready => some (.ok true)
  | .timeout => some (.ok false)
  | .stopped => some (.ok false)
  | .failed fault => some (.error fault)
  | .unfinished => none

/-- A poll with the clock when it came back. -/
structure Polled extends Poll where
  back : Nat

/-- The polls of a script. -/
def pollsOf (script : List Polled) : List Poll := script.map (·.toPoll)

theorem pollsOf_cons (turn : Polled) (rest : List Polled) :
    pollsOf (turn :: rest) = turn.toPoll :: pollsOf rest := rfl

namespace Poll

/-- The wait that a poll asks for. -/
def wait (deadline slice : Nat) (poll : Poll) : Nat := min (deadline - poll.now) slice

/-- The wait goes on behind the poll. -/
structure GoesOn (deadline slice : Nat) (poll : Poll) : Prop where
  notStopped : poll.stopped = false
  noInput : poll.answer = .ok false
  left : slice < deadline - poll.now

end Poll

section Turns

variable {deadline slice : Nat}

/-! ## The turn that ends a wait -/

/-- The end of a wait on what is left of a script: the turns that are polled, at most one,
and how it ends. -/
inductive Ends (deadline slice : Nat) : List Polled → List Polled → WaitEnd → Prop
  | unfinished : Ends deadline slice [] [] .unfinished
  | stopped {turn : Polled} {rest : List Polled} (h : turn.stopped = true) :
    Ends deadline slice (turn :: rest) [] .stopped
  | failed {turn : Polled} {rest : List Polled} {fault : Fault} (hgo : turn.stopped = false)
      (h : turn.answer = .error fault) : Ends deadline slice (turn :: rest) [turn] (.failed fault)
  | ready {turn : Polled} {rest : List Polled} (hgo : turn.stopped = false)
      (h : turn.answer = .ok true) : Ends deadline slice (turn :: rest) [turn] .ready
  | timeout {turn : Polled} {rest : List Polled} (hgo : turn.stopped = false)
      (h : turn.answer = .ok false) (hleft : deadline - turn.now ≤ slice) :
    Ends deadline slice (turn :: rest) [turn] .timeout

/-- A turn ends the wait, or the wait goes on behind it. -/
theorem ends_or_goesOn (turn : Polled) (rest : List Polled) :
    (∃ made ending, Ends deadline slice (turn :: rest) made ending) ∨
      turn.GoesOn deadline slice := by
  cases hstop : turn.stopped with
  | true => exact Or.inl ⟨_, _, .stopped hstop⟩
  | false =>
    cases hanswer : turn.answer with
    | error fault => exact Or.inl ⟨_, _, .failed hstop hanswer⟩
    | ok input =>
      cases input with
      | true => exact Or.inl ⟨_, _, .ready hstop hanswer⟩
      | false =>
        by_cases hleft : deadline - turn.now ≤ slice
        · exact Or.inl ⟨_, _, .timeout hstop hanswer hleft⟩
        · exact Or.inr ⟨hstop, hanswer, Nat.lt_of_not_le hleft⟩

section Ends

variable {rest made : List Polled} {ending : WaitEnd} (h : Ends deadline slice rest made ending)

include h

theorem Ends.waited :
    waitSliced deadline slice (pollsOf rest) = ⟨made.map (·.wait deadline slice), ending⟩ := by
  cases h with
  | unfinished => rfl
  | stopped h => simp [waitSliced, pollsOf, h]
  | failed hgo h => simp [waitSliced, pollsOf, hgo, h, Poll.wait]
  | ready hgo h => simp [waitSliced, pollsOf, hgo, h, Poll.wait]
  | timeout hgo h hleft => simp [waitSliced, pollsOf, hgo, h, hleft, Poll.wait]

/-- Turns behind the last one change nothing. -/
theorem Ends.append (hend : ending ≠ .unfinished) (more : List Polled) :
    Ends deadline slice (rest ++ more) made ending := by
  cases h with
  | unfinished => exact absurd rfl hend
  | stopped h => exact .stopped h
  | failed hgo h => exact .failed hgo h
  | ready hgo h => exact .ready hgo h
  | timeout hgo h hleft => exact .timeout hgo h hleft

theorem Ends.isPrefix : made <+: rest := by
  cases h with
  | unfinished | stopped => exact List.nil_prefix
  | failed | ready | timeout => exact List.cons_prefix_cons.mpr ⟨rfl, List.nil_prefix⟩

theorem Ends.length_le : made.length ≤ 1 := by
  cases h with
  | unfinished | stopped => exact Nat.zero_le 1
  | failed | ready | timeout => exact Nat.le_refl 1

theorem Ends.notStopped : ∀ turn ∈ made, turn.stopped = false := by
  cases h with
  | unfinished | stopped => exact fun turn hturn => absurd hturn List.not_mem_nil
  | failed hgo | ready hgo | timeout hgo =>
    exact fun turn hturn => List.mem_singleton.mp hturn ▸ hgo

end Ends

/-! ## The turns before it -/

/-- The wait goes on behind some turns, and what is behind them ends it. -/
theorem exists_ends (deadline slice : Nat) (script : List Polled) :
    ∃ passed rest made ending, script = passed ++ rest ∧
      (∀ turn ∈ passed, turn.GoesOn deadline slice) ∧ Ends deadline slice rest made ending := by
  induction script with
  | nil => exact ⟨[], [], [], _, rfl, by simp, .unfinished⟩
  | cons turn rest ih =>
    rcases ends_or_goesOn turn rest with ⟨made, ending, hends⟩ | hgo
    · exact ⟨[], turn :: rest, made, ending, rfl, by simp, hends⟩
    · obtain ⟨passed, more, made, ending, rfl, hpassed, hends⟩ := ih
      exact ⟨turn :: passed, more, made, ending, rfl, List.forall_mem_cons.mpr ⟨hgo, hpassed⟩,
        hends⟩

theorem waitSliced_passed {passed rest made : List Polled} {ending : WaitEnd}
    (hpassed : ∀ turn ∈ passed, turn.GoesOn deadline slice)
    (hends : Ends deadline slice rest made ending) :
    waitSliced deadline slice (pollsOf (passed ++ rest)) =
      ⟨(passed ++ made).map (·.wait deadline slice), ending⟩ := by
  induction passed with
  | nil => exact hends.waited
  | cons turn passed ih =>
    obtain ⟨hgo, hpassed⟩ := List.forall_mem_cons.mp hpassed
    have hleft := Nat.not_le_of_lt hgo.left
    rw [List.cons_append, pollsOf_cons, waitSliced, ih hpassed]
    simp [hgo.notStopped, hgo.noInput, hleft, Poll.wait]

end Turns

/-! ## The clock -/

/-- The clock never goes back, and a poll without input took all the wait that was asked
of it. -/
def Steady (deadline slice : Nat) : Nat → List Polled → Prop
  | _, [] => True
  | clock, turn :: rest =>
    clock ≤ turn.now ∧ turn.now ≤ turn.back ∧
      (turn.answer = .ok false → turn.now + turn.wait deadline slice ≤ turn.back) ∧
      Steady deadline slice turn.back rest

/-- A time that is longer than some slices has one more slice, which may not be whole. -/
theorem succ_le_slices {timeout slice count : Nat} (hslice : 0 < slice)
    (h : count = 0 ∨ count * slice < timeout) :
    count + 1 ≤ max 1 ((timeout + slice - 1) / slice) := by
  rcases h with rfl | h
  · exact Nat.le_max_left _ _
  · refine Nat.le_trans ((Nat.le_div_iff_mul_le hslice).mpr ?_) (Nat.le_max_right _ _)
    rw [Nat.add_mul]
    omega

section Steady

variable {deadline slice clock : Nat} {passed rest : List Polled}

/-- Polls behind which the wait goes on use up a slice each, and time is left behind
them. -/
theorem passed_mul_lt (hsteady : Steady deadline slice clock (passed ++ rest))
    (hgo : ∀ turn ∈ passed, turn.GoesOn deadline slice) :
    passed.length = 0 ∨ passed.length * slice < deadline - clock := by
  induction passed generalizing clock with
  | nil => exact Or.inl rfl
  | cons turn passed ih =>
    obtain ⟨hclock, hback, hwait, hrest⟩ := hsteady
    obtain ⟨hturn, hpassed⟩ := List.forall_mem_cons.mp hgo
    have hleft := hturn.left
    have hspent := hwait hturn.noInput
    rw [Poll.wait, Nat.min_eq_right (Nat.le_of_lt hleft)] at hspent
    right
    rw [List.length_cons, Nat.add_mul]
    rcases ih hrest hpassed with hnone | hsome
    · rw [hnone]
      omega
    · omega

/-- The rest of a steady script is steady. -/
theorem Steady.drop (hsteady : Steady deadline slice clock (passed ++ rest)) :
    ∃ later, Steady deadline slice later rest := by
  induction passed generalizing clock with
  | nil => exact ⟨clock, hsteady⟩
  | cons turn passed ih => exact ih hsteady.2.2.2

end Steady

section Made

variable {deadline slice : Nat} {passed rest made : List Polled} {ending : WaitEnd}
  (hpassed : ∀ turn ∈ passed, turn.GoesOn deadline slice)
  (hends : Ends deadline slice rest made ending)

include hends

include hpassed in
/-- Input and faults end the wait at the poll that tells them, and nothing else does so. -/
theorem returned_iff {result : Except Fault Bool} (hresult : result ≠ .ok false) :
    ending.returned = some result ↔
      ∃ last, (passed ++ made).getLast? = some last ∧ last.answer = result := by
  -- Behind the last of the turns that were passed there was no input.
  have hnone : (∃ last, (passed ++ []).getLast? = some last ∧ last.answer = result) ↔ False := by
    rw [List.append_nil, iff_false]
    rintro ⟨last, hlast, hanswer⟩
    exact hresult (hanswer ▸ (hpassed last (List.mem_of_getLast? hlast)).noInput)
  cases hends with
  | unfinished => rw [hnone]; simp [WaitEnd.returned]
  | stopped => rw [hnone]; simpa [WaitEnd.returned] using Ne.symm hresult
  | failed _ h => simp [WaitEnd.returned, h]
  | ready _ h => simp [WaitEnd.returned, h]
  | timeout _ h => simp [WaitEnd.returned, h]

include hpassed in
theorem noInput_of_mem_dropLast :
    ∀ turn ∈ (passed ++ made).dropLast, turn.answer = .ok false := by
  intro turn hturn
  refine (hpassed turn ?_).noInput
  cases hends with
  | unfinished | stopped =>
    rw [List.append_nil] at hturn
    exact (List.dropLast_prefix _).subset hturn
  | failed | ready | timeout => rwa [List.dropLast_concat] at hturn

/-- A wait that ends without input and without a stop ends when its time is over. -/
theorem returned_false {clock : Nat} (hsteady : Steady deadline slice clock (passed ++ rest))
    (h : ending.returned = some (.ok false)) :
    (ending = .stopped ∧ ∃ turn, (passed ++ rest)[(passed ++ made).length]? = some turn ∧
      turn.stopped = true) ∨
      ∃ last, (passed ++ made).getLast? = some last ∧ deadline ≤ last.back := by
  cases hends with
  | unfinished => simp [WaitEnd.returned] at h
  | failed => simp [WaitEnd.returned] at h
  | ready => simp [WaitEnd.returned] at h
  | stopped hstop => exact Or.inl ⟨rfl, _, by simp, hstop⟩
  | timeout _ hanswer hleft =>
    refine Or.inr ⟨_, List.getLast?_concat .., ?_⟩
    obtain ⟨_, _, hback, hwait, _⟩ := hsteady.drop
    have hspent := hwait hanswer
    rw [Poll.wait, Nat.min_eq_left hleft] at hspent
    omega

end Made

/-! ## The laws -/

/-- A wait of any length in slices, on a clock that never goes back and goes on while a poll
waits. It ends within the turns of its slices, whatever the script tells behind them. Each
poll asks for a slice or for the time left, and before each one no stop was asked for. The
wait tells of input exactly when the last poll did, and of a fault at once; and when it tells
of none, then a stop was asked for behind the last poll or all of the time is over. -/
theorem a_wait_ends_in_time {slice : Nat} (hslice : 0 < slice) (timeout start : Nat)
    (script : List Polled) (hsteady : Steady (start + timeout) slice start script) :
    let deadline := start + timeout
    let waited := waitSliced deadline slice (pollsOf script)
    let made := script.take waited.waits.length
    let most := max 1 ((timeout + slice - 1) / slice)
    (most ≤ script.length → waited.ending ≠ .unfinished) ∧
      (waited.ending ≠ .unfinished →
        ∀ more, waitSliced deadline slice (pollsOf (script ++ more)) = waited) ∧
      waited.waits.length ≤ most ∧
      waited.waits = made.map (fun turn => min (deadline - turn.now) slice) ∧
      (∀ turn ∈ made, turn.stopped = false) ∧
      (∀ turn ∈ made.dropLast, turn.answer = .ok false) ∧
      (∀ result, result ≠ .ok false →
        (waited.ending.returned = some result ↔
          ∃ last, made.getLast? = some last ∧ last.answer = result)) ∧
      (waited.ending.returned = some (.ok false) →
        (waited.ending = .stopped ∧
          ∃ turn, script[waited.waits.length]? = some turn ∧ turn.stopped = true) ∨
        ∃ last, made.getLast? = some last ∧ deadline ≤ last.back) := by
  intro deadline waited made most
  obtain ⟨passed, rest, last, ending, rfl, hpassed, hends⟩ := exists_ends deadline slice script
  have hwaited : waited = ⟨(passed ++ last).map (·.wait deadline slice), ending⟩ :=
    waitSliced_passed hpassed hends
  have hlength : waited.waits.length = (passed ++ last).length := by simp [hwaited]
  have hending : waited.ending = ending := by rw [hwaited]
  have hmade : made = passed ++ last := by
    have hbegin : passed ++ last <+: passed ++ rest :=
      (List.prefix_append_right_inj _).mpr hends.isPrefix
    rw [List.prefix_iff_eq_take.mp hbegin, ← hlength]
  have hmost : passed.length + 1 ≤ most := by
    have hspent := passed_mul_lt hsteady hpassed
    rw [Nat.add_sub_cancel_left] at hspent
    exact succ_le_slices hslice hspent
  have hone := hends.length_le
  rw [hlength, hending, hmade]
  refine ⟨?_, ?_, ?_, ?_, ?_, noInput_of_mem_dropLast hpassed hends,
    fun result => returned_iff hpassed hends, returned_false hends hsteady⟩
  · rintro hlong rfl
    cases hends
    rw [List.append_nil] at hlong
    omega
  · intro hend more
    rw [hwaited, List.append_assoc]
    exact waitSliced_passed hpassed (hends.append hend more)
  · rw [List.length_append]
    omega
  · rw [hwaited]
    rfl
  · exact List.forall_mem_append.mpr
      ⟨fun turn hturn => (hpassed turn hturn).notStopped, hends.notStopped⟩

/-- A quarter of a second without input. The polls come back a little late, so the third one
asks for less than a half of a slice. -/
def quietTurns : List Polled :=
  [⟨⟨false, 1000, .ok false⟩, 1100⟩, ⟨⟨false, 1101, .ok false⟩, 1205⟩,
   ⟨⟨false, 1206, .ok false⟩, 1250⟩]

theorem a_quarter_second_takes_three_polls :
    0 < 100 ∧ Steady (1000 + 250) 100 1000 quietTurns ∧
      (waitSliced (1000 + 250) 100 (pollsOf quietTurns)).waits = [100, 100, 44] ∧
      ∃ last, quietTurns.getLast? = some last ∧ 1000 + 250 ≤ last.back := by
  have hsteady : Steady (1000 + 250) 100 1000 quietTurns := by
    simp [Steady, quietTurns, Poll.wait]
  obtain ⟨_, _, _, hwaits, _, _, _, hfalse⟩ := a_wait_ends_in_time (by decide) 250 1000 quietTurns
    hsteady
  refine ⟨by decide, hsteady, hwaits, ?_⟩
  rcases hfalse rfl with ⟨hstopped, _⟩ | hover
  · exact absurd hstopped (by decide)
  · exact hover

end ProcessMonitor.Run
