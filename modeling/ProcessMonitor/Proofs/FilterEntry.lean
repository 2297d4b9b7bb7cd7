-- The laws of typing a filter. While a filter is typed, keys change the text so
-- far and nothing else, and passes and changes of the window go on below it. So
-- a dropped filter leaves no trace, and a taken one is set on the list as it has
-- become meanwhile.
import ProcessMonitor.Process.Prepared
import ProcessMonitor.Proofs.SessionRuns

namespace ProcessMonitor

/-! ## What is typed -/

namespace Key

/-- Begins to type a filter. -/
def Filters (key : Key) : Prop :=
  key.code = .char 'f' ∨ key.code = .char 'F' ∨ key.code = .char '/'

/-- Neither takes nor drops what is typed, and does not interrupt. -/
def KeepsTyping (key : Key) : Prop :=
  key.code ≠ .enter ∧ key.code ≠ .escape ∧ key.isInterrupt = false

/-- What a key makes of a text: a character without control or alt is added, and
backspace takes the last character away. -/
def edit (key : Key) (text : String) : String :=
  match key.code with
  | .char c => if key.control || key.alt then text else text.push c
  | .backspace => dropLastChar text
  | _ => text

end Key

namespace Happening

def isKey : Happening → Bool
  | .key _ _ => true
  | _ => false

/-- No key among the happenings ends the typing. -/
def KeepsTyping : Happening → Prop
  | .key _ pressed => pressed.KeepsTyping
  | _ => True

/-- What a happening makes of a text that is being typed. -/
def edit (text : String) : Happening → String
  | .key _ pressed => pressed.edit text
  | _ => text

/-- A text after keys, in order. -/
def typed (text : String) (steps : List Happening) : String := steps.foldl edit text

/-- The happenings without the keys. -/
def withoutKeys (steps : List Happening) : List Happening := steps.filter fun step => !step.isKey

theorem exists_key {next : Happening} (h : next.isKey = true) :
    ∃ control key, next = .key control key := by
  cases next with
  | key control key => exact ⟨control, key, rfl⟩
  | pass | resize => simp [isKey] at h

theorem edit_of_not_isKey {next : Happening} (h : next.isKey = false) (text : String) :
    edit text next = text := by
  cases next with
  | key control key => simp [isKey] at h
  | pass | resize => rfl

end Happening

open Happening (typed withoutKeys)

/-- The effect without the message of the last key. -/
def Effect.silent (effect : Effect) : Effect :=
  { effect with session := { effect.session with status := none } }

/-- The effect on a session that shows `mode` and `status` instead of its own. -/
def Effect.showing (effect : Effect) (mode : Mode) (status : Option String) : Effect :=
  { effect with session := { effect.session with mode, status } }

/-- Two effects, one after the other. -/
def Effect.followedBy (first more : Effect) : Effect :=
  { session := more.session
    requests := first.requests ++ more.requests
    reports := first.reports ++ more.reports }

namespace Session

/-! ## One happening -/

/-- A pass and a change of the window do not look at the mode and the message. -/
theorem after_showing (s : Session) (mode : Mode) (status : Option String) {next : Happening}
    (h : next.isKey = false) :
    ({ s with mode, status } : Session).after next = (s.after next).showing mode status := by
  cases next with
  | key control key => simp [Happening.isKey] at h
  | pass reading => rfl
  | resize rows => rfl

theorem press_begins (s : Session) (control : Controller) (key : Key) (hmode : s.mode = .normal)
    (h : key.Filters) :
    s.press control key =
      ({ s with mode := .filterEntry s.table.filter, status := none } : Session).step := by
  rcases h with h | h | h <;> simp [press, Key.isInterrupt, h, hmode, pressNormal]

/-- A key that keeps the typing going edits the text, and that is all. -/
theorem press_typing (s : Session) (control : Controller) (key : Key) (buffer : String)
    (hmode : s.mode = .filterEntry buffer) (h : key.KeepsTyping) :
    s.press control key =
      ({ s with mode := .filterEntry (key.edit buffer), status := none } : Session).step := by
  obtain ⟨henter, hescape, hinterrupt⟩ := h
  unfold press
  simp only [hinterrupt, Bool.false_eq_true, if_false, hmode]
  unfold pressFilter
  split
  · contradiction
  · contradiction
  · rename_i hcode
    simp [Key.edit, hcode]
  · rename_i c hcode
    split <;> rename_i hheld <;> simp [Key.edit, hcode, hheld]
  · -- No other key is looked at while a filter is typed.
    rename_i hback hchar
    have hsame : key.edit buffer = buffer := by
      cases hcode : key.code with
      | char c => exact absurd hcode (hchar c)
      | backspace => exact absurd hcode hback
      | _ => simp [Key.edit, hcode]
    rw [hsame]

theorem press_drops (s : Session) (control : Controller) (key : Key) (buffer : String)
    (hmode : s.mode = .filterEntry buffer) (h : key.code = .escape) :
    s.press control key = ({ s with mode := .normal, status := none } : Session).step := by
  simp [press, Key.isInterrupt, h, hmode, pressFilter]

theorem press_takes (s : Session) (control : Controller) (key : Key) (buffer : String)
    (hmode : s.mode = .filterEntry buffer) (h : key.code = .enter) :
    s.press control key =
      ({ s with mode := .normal, table := s.table.setFilter buffer, status := none } :
        Session).step := by
  simp [press, Key.isInterrupt, h, hmode, pressFilter]

/-! ## Runs -/

theorem run_append (s : Session) (first more : List Happening) :
    s.run (first ++ more) = (s.run first).followedBy ((s.run first).session.run more) := by
  induction first generalizing s with
  | nil => rfl
  | cons next rest ih => simp [run, ih, Effect.followedBy]

/-- Passes and changes of the window ask nothing and stay in the mode. -/
theorem run_withoutKeys (s : Session) (steps : List Happening) :
    (s.run (withoutKeys steps)).session.mode = s.mode ∧
      (s.run (withoutKeys steps)).requests = [] := by
  induction steps generalizing s with
  | nil => exact ⟨rfl, rfl⟩
  | cons next rest ih =>
    cases next with
    | key control key => exact ih s
    | pass reading => exact ih (s.after (.pass reading)).session
    | resize rows => exact ih (s.after (.resize rows)).session

/-- The session under the text that is typed goes on as without the keys. -/
theorem run_typing (s : Session) (buffer : String) (status : Option String)
    (steps : List Happening) (h : ∀ step ∈ steps, step.KeepsTyping) :
    ∃ message, ({ s with mode := .filterEntry buffer, status } : Session).run steps =
      (s.run (withoutKeys steps)).showing (.filterEntry (typed buffer steps)) message := by
  induction steps generalizing s buffer status with
  | nil => exact ⟨status, rfl⟩
  | cons next rest ih =>
    obtain ⟨hnext, hrest⟩ := List.forall_mem_cons.mp h
    cases hkey : next.isKey with
    | true =>
      -- A key goes on in the same session, with another text over it.
      obtain ⟨control, key, rfl⟩ := Happening.exists_key hkey
      obtain ⟨message, hrun⟩ := ih s (key.edit buffer) none hrest
      refine ⟨message, ?_⟩
      rw [run, after, press_typing _ control key buffer rfl hnext]
      simp [step, hrun, withoutKeys, hkey, typed, Happening.edit, Effect.showing]
    | false =>
      -- Anything else goes on with the same text, over another session.
      obtain ⟨message, hrun⟩ := ih (s.after next).session buffer status hrest
      refine ⟨message, ?_⟩
      rw [run, after_showing _ _ _ hkey]
      simp [hrun, withoutKeys, hkey, typed, Happening.edit_of_not_isKey hkey, Effect.showing, run]

theorem run_opened (s : Session) (hmode : s.mode = .normal) (control : Controller) (opening : Key)
    (hopening : opening.Filters) (steps : List Happening) (h : ∀ step ∈ steps, step.KeepsTyping) :
    ∃ message, s.run (.key control opening :: steps) =
      (s.run (withoutKeys steps)).showing (.filterEntry (typed s.table.filter steps)) message := by
  obtain ⟨message, hrun⟩ := run_typing s s.table.filter none steps h
  refine ⟨message, ?_⟩
  rw [run, after, press_begins s control opening hmode hopening]
  simp [step, hrun, Effect.showing]

/-! ## The laws -/

/-- A filter is opened over the list, passes, changes of the window and keys follow,
and none of the keys takes or drops what is typed. Dropped in the end, it leaves
no trace: all but the message is as if only the passes and the changes of the
window had happened. Taken instead, it is set on the list that these have left,
with the edits of all keys in order. On the way no key quits, asks for a pass,
makes a request or changes the list. -/
theorem a_filter_in_the_making_touches_nothing_else (s : Session) (hmode : s.mode = .normal)
    (control : Controller) (opening dropping taking : Key) (hopening : opening.Filters)
    (hdropping : dropping.code = .escape) (htaking : taking.code = .enter)
    (steps : List Happening) (hsteps : ∀ step ∈ steps, step.KeepsTyping) :
    let begun := .key control opening :: steps
    let unseen := (s.run (withoutKeys steps)).silent
    unseen.session.mode = .normal ∧ unseen.requests = [] ∧
      (∀ final, (s.run (begun ++ [.key final dropping])).silent = unseen) ∧
      (∀ final, (s.run (begun ++ [.key final taking])).silent =
        { unseen with session := { unseen.session with
            table := unseen.session.table.setFilter (typed s.table.filter steps) } }) ∧
      ∀ before later held key, steps = before ++ .key held key :: later →
        let now := (s.run (.key control opening :: before)).session
        let pressed := now.press held key
        now.mode = .filterEntry (typed s.table.filter before) ∧
          pressed.1.session.mode = .filterEntry (key.edit (typed s.table.filter before)) ∧
          pressed.1.session.table = now.table ∧ pressed.1.requests = [] ∧ pressed.2 = .stay := by
  intro begun unseen
  obtain ⟨hnormal, hnone⟩ := run_withoutKeys s steps
  obtain ⟨message, hbegun⟩ := run_opened s hmode control opening hopening steps hsteps
  have hback : (s.run (withoutKeys steps)).session.mode = .normal := hnormal.trans hmode
  refine ⟨hback, hnone, ?_, ?_, ?_⟩
  · intro final
    rw [run_append, hbegun, run, after,
      press_drops _ final dropping (typed s.table.filter steps) rfl hdropping]
    simp [unseen, run, step, Effect.followedBy, Effect.showing, Effect.silent, hback]
  · intro final
    rw [run_append, hbegun, run, after,
      press_takes _ final taking (typed s.table.filter steps) rfl htaking]
    simp [unseen, run, step, Effect.followedBy, Effect.showing, Effect.silent, hback]
  · intro before later held key hsplit now pressed
    have hbefore : ∀ step ∈ before, step.KeepsTyping := fun step hstep =>
      hsteps step (hsplit ▸ List.mem_append_left _ hstep)
    have hkey : key.KeepsTyping :=
      hsteps (.key held key) (hsplit ▸ List.mem_append_right _ List.mem_cons_self)
    obtain ⟨_, hnow⟩ := run_opened s hmode control opening hopening before hbefore
    have hnowmode : now.mode = .filterEntry (typed s.table.filter before) := by
      simp only [now, hnow]
      rfl
    have hpressed := press_typing now held key _ hnowmode hkey
    refine ⟨hnowmode, ?_⟩
    simp [pressed, hpressed, step]

/-- Keys that quit, end a process and sort are typed like any other, and the window
changes its height meanwhile. -/
theorem quit_and_kill_keys_are_typed_into_a_filter :
    let control := Controller.prepared [] (fun _ nice => nice) 0
    let key := fun code => Happening.key control { code }
    let steps := [key (.char 'q'), .resize 7, key (.char 'x'), key (.char 's'), key .backspace]
    (∀ step ∈ steps, step.KeepsTyping) ∧
      (default.run (key (.char '/') :: steps ++ [key .escape])).silent =
        (default.run [.resize 7]).silent ∧
      (default.run (key (.char '/') :: steps ++ [key .enter])).session.table =
        (default.table.setRows 7).setFilter "qx" := by
  intro control key steps
  have hsteps : ∀ step ∈ steps, step.KeepsTyping := by
    simp [steps, key, Happening.KeepsTyping, Key.KeepsTyping, Key.isInterrupt]
  obtain ⟨_, _, hdropped, htaken, _⟩ := a_filter_in_the_making_touches_nothing_else default rfl
    control { code := .char '/' } { code := .escape } { code := .enter } (by simp [Key.Filters])
    rfl rfl steps hsteps
  refine ⟨hsteps, hdropped control, ?_⟩
  have htyped : typed default.table.filter steps = "qx" := by decide
  have htable := congrArg (·.session.table) (htaken control)
  rw [htyped] at htable
  exact htable

end Session

end ProcessMonitor
