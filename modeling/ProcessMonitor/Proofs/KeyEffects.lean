-- The laws of single keys. Quit keys change nothing but the message. A box over the
-- list takes every key for itself, so nothing below it moves, except that a filter
-- that is taken is set on the list. And a message is there after a key only if this
-- key has something to tell.
import ProcessMonitor.Proofs.FilterEntry
import ProcessMonitor.Proofs.Requests

namespace ProcessMonitor

/-! ## Keys and modes -/

namespace Key

/-- The letter c with control held. -/
def Interrupts (key : Key) : Prop := key.code = .char 'c' ∧ key.control = true

def Quits (key : Key) : Prop := key.code = .char 'q' ∨ key.code = .char 'Q'

/-- Makes the interval longer or shorter. -/
def SetsInterval (key : Key) : Prop := key.code = .char '[' ∨ key.code = .char ']'

theorem isInterrupt_iff (key : Key) : key.isInterrupt = true ↔ key.Interrupts := by
  simp [isInterrupt, Interrupts]

theorem isQuit_iff (key : Key) : key.isQuit = true ↔ key.Quits := by
  simp [isQuit, Quits]

end Key

/-- Characters are typed into a text. -/
def Mode.TakesText (mode : Mode) : Prop := ∃ buffer, mode = .filterEntry buffer

/-- A box that is closed by every key that does not quit. -/
def Mode.ClosesOnAnyKey (mode : Mode) : Prop :=
  mode = .help ∨ ∃ pid command, mode = .confirmKill pid command

namespace Session

/-! ## Quitting -/

/-- The interrupt key quits everywhere, a quit key where no text is typed. -/
def QuitsBy (s : Session) (key : Key) : Prop := key.Interrupts ∨ key.Quits ∧ ¬ s.mode.TakesText

theorem Pressed.quitsBy {s : Session} {control : Controller} {key : Key} {result : Effect × Action}
    (h : Pressed s control key result) (hquit : result.2 = .quit) : s.QuitsBy key := by
  cases h with
  | quit h =>
    rw [key.isInterrupt_iff, key.isQuit_iff] at h
    rcases h with h | ⟨h, htext⟩
    · exact Or.inl h
    · exact Or.inr ⟨h, fun ⟨buffer, hmode⟩ => htext buffer hmode⟩
  | _ => cases hquit

/-- A key that quits does nothing else. -/
theorem press_of_quitsBy (s : Session) (control : Controller) {key : Key} (h : s.QuitsBy key) :
    s.press control key = ({ s with status := none } : Session).step .quit := by
  rcases h with h | ⟨h, htext⟩
  · have hinterrupt := key.isInterrupt_iff.mpr h
    simp [press, hinterrupt]
  · have hquit := key.isQuit_iff.mpr h
    have hinterrupt : key.isInterrupt = false := by
      rcases h with h | h <;> simp [Key.isInterrupt, h]
    unfold press
    simp only [hinterrupt, Bool.false_eq_true, if_false]
    cases hmode : s.mode with
    | filterEntry buffer => exact absurd ⟨buffer, hmode⟩ htext
    | normal => rcases h with h | h <;> simp [pressNormal, h]
    | confirmKill pid command => rcases h with h | h <;> simp [pressConfirm, h, Key.isQuit]
    | help => simp [pressHelp, hquit]

theorem press_eq_quit_iff (s : Session) (control : Controller) (key : Key) :
    (s.press control key).2 = .quit ↔ s.QuitsBy key := by
  refine ⟨(s.pressed control key).quitsBy, fun h => ?_⟩
  rw [press_of_quitsBy s control h]
  rfl

/-! ## Boxes -/

/-- Over a box a key changes the mode and the message alone, unless it takes a
filter. -/
theorem Pressed.captured {s : Session} {control : Controller} {key : Key}
    {result : Effect × Action} (h : Pressed s control key result) (hmode : s.mode ≠ .normal)
    (hkeep : ¬ (s.mode.TakesText ∧ key.code = .enter)) :
    ∃ mode status, result.1.session = { s with mode, status } := by
  cases h with
  | takeFilter buffer htext hkey => exact absurd ⟨⟨buffer, htext⟩, hkey⟩ hkeep
  | confirm pid command hopen hkey =>
    obtain ⟨status, hs⟩ := s.confirmKill_session control
    exact ⟨_, status, hs⟩
  | quit h => exact ⟨_, _, rfl⟩
  | dropFilter buffer htext hkey => exact ⟨_, _, rfl⟩
  | typed buffer edited htext => exact ⟨_, _, rfl⟩
  | cancel pid command hopen hkey => exact ⟨_, _, rfl⟩
  | closeHelp hhelp => exact ⟨_, _, rfl⟩
  | _ => contradiction

theorem Pressed.closes {s : Session} {control : Controller} {key : Key} {result : Effect × Action}
    (h : Pressed s control key result) (hbox : s.mode.ClosesOnAnyKey)
    (hstay : result.2 ≠ .quit) : result.1.session.mode = .normal := by
  cases h with
  | quit h => exact absurd rfl hstay
  | confirm pid command hopen hkey =>
    obtain ⟨status, hs⟩ := s.confirmKill_session control
    rw [hs]
  | dropFilter buffer htext hkey => rfl
  | takeFilter buffer htext hkey => rfl
  | cancel pid command hopen hkey => rfl
  | closeHelp hhelp => rfl
  | typed buffer edited htext =>
    rcases hbox with hhelp | ⟨pid, command, hopen⟩
    · rw [hhelp] at htext
      cases htext
    · rw [hopen] at htext
      cases htext
  | _ =>
    -- All other keys are those of the list, which has no box over it.
    rcases hbox with hhelp | ⟨pid, command, hopen⟩ <;> simp_all

/-- Only its two ends leave the typing of a filter. -/
theorem mode_press_filterEntry (s : Session) (control : Controller) (key : Key) (buffer : String)
    (hmode : s.mode = .filterEntry buffer) :
    (s.press control key).1.session.mode.TakesText ↔ key.code ≠ .enter ∧ key.code ≠ .escape := by
  by_cases henter : key.code = .enter
  · rw [press_takes s control key buffer hmode henter]
    simp [step, Mode.TakesText, henter]
  · by_cases hescape : key.code = .escape
    · rw [press_drops s control key buffer hmode hescape]
      simp [step, Mode.TakesText, hescape]
    · refine iff_of_true ?_ ⟨henter, hescape⟩
      cases hinterrupt : key.isInterrupt with
      | true =>
        rw [press_of_quitsBy s control (Or.inl (key.isInterrupt_iff.mp hinterrupt))]
        exact ⟨buffer, hmode⟩
      | false =>
        rw [press_typing s control key buffer hmode ⟨henter, hescape, hinterrupt⟩]
        exact ⟨_, rfl⟩

/-! ## Messages -/

/-- A change of a priority leaves a message exactly if it asks for something. -/
theorem status_renice (s : Session) (hs : s.status = none) (control : Controller) (delta : Int) :
    (s.renice control delta).session.status.isSome = true ↔
      (s.renice control delta).requests ≠ [] := by
  unfold renice
  cases s.table.selected? with
  | none => simp [hs]
  | some process =>
    dsimp only
    split <;> simp

theorem status_confirmKill (s : Session) (control : Controller) (pid : Int) (command : String)
    (hmode : s.mode = .confirmKill pid command) :
    (s.confirmKill control).session.status.isSome = true := by
  unfold confirmKill
  rw [hmode]
  dsimp only
  split <;> rfl

/-- A key that leaves a message has asked for something or set the interval. -/
theorem Pressed.tells {s : Session} {control : Controller} {key : Key} {result : Effect × Action}
    (h : Pressed s control key result) (hs : s.status = none)
    (htold : result.1.session.status.isSome = true) :
    result.1.requests ≠ [] ∨ s.mode = .normal ∧ key.SetsInterval := by
  cases h with
  | raise hmode hkey => exact Or.inl ((s.status_renice hs control reniceStep).mp htold)
  | lower hmode hkey => exact Or.inl ((s.status_renice hs control (-reniceStep)).mp htold)
  | confirm pid command hmode hkey =>
    rw [requests_confirmKill s control pid command hmode]
    exact Or.inl (List.cons_ne_nil _ _)
  | slower hmode hkey => exact Or.inr ⟨hmode, Or.inl hkey⟩
  | faster hmode hkey => exact Or.inr ⟨hmode, Or.inr hkey⟩
  | ask hmode hkey =>
    obtain ⟨mode, hsame⟩ := s.requestKill_session
    rw [hsame] at htold
    exact absurd htold (by simp [step, hs])
  | _ =>
    -- Every other key leaves the message as it finds it.
    have hsome : s.status.isSome = true := htold
    rw [hs] at hsome
    cases hsome

/-- A request is always told of. -/
theorem Pressed.told {s : Session} {control : Controller} {key : Key} {result : Effect × Action}
    (h : Pressed s control key result) (hs : s.status = none) (hasked : result.1.requests ≠ []) :
    result.1.session.status.isSome = true := by
  cases h with
  | raise hmode hkey => exact (s.status_renice hs control reniceStep).mpr hasked
  | lower hmode hkey => exact (s.status_renice hs control (-reniceStep)).mpr hasked
  | confirm pid command hmode hkey => exact s.status_confirmKill control pid command hmode
  | _ => exact absurd rfl hasked

theorem status_press_of_setsInterval (s : Session) (control : Controller) {key : Key}
    (hmode : s.mode = .normal) (h : key.SetsInterval) :
    (s.press control key).1.session.status.isSome = true := by
  rcases h with h | h <;> rw [press_normal s control key hmode (by simp [h])] <;>
    simp [pressNormal, h, slower, faster, setInterval]

/-! ## The laws -/

/-- One key over any session. It quits exactly if it is the interrupt key, or a quit key
while no text is typed, and then only the message goes. Over a box it changes the
mode and the message alone, but for the key that takes a filter, which sets the typed
text on the list. Every key that does not quit closes the list of keys and the
question, and a filter is typed until it is taken or dropped. A message is there after
the key exactly if this key made a request, or set the interval over the list. -/
theorem a_key_changes_only_what_its_mode_gives_it (s : Session) (control : Controller)
    (key : Key) :
    let pressed := s.press control key
    let after := pressed.1.session
    (pressed.2 = .quit ↔ s.QuitsBy key) ∧
      (pressed.2 = .quit → pressed.1 = { session := { s with status := none } }) ∧
      (s.mode ≠ .normal → ¬ (s.mode.TakesText ∧ key.code = .enter) →
        ∃ mode status, after = { s with mode, status }) ∧
      (∀ buffer, s.mode = .filterEntry buffer → key.code = .enter →
        after = { s with table := s.table.setFilter buffer, mode := .normal, status := none }) ∧
      (s.mode.ClosesOnAnyKey → pressed.2 ≠ .quit → after.mode = .normal) ∧
      (∀ buffer, s.mode = .filterEntry buffer →
        (after.mode.TakesText ↔ key.code ≠ .enter ∧ key.code ≠ .escape)) ∧
      (after.status.isSome = true ↔
        pressed.1.requests ≠ [] ∨ s.mode = .normal ∧ key.SetsInterval) := by
  intro pressed after
  have h : Pressed { s with status := none } control key pressed := s.pressed control key
  have hquits := s.press_eq_quit_iff control key
  refine ⟨hquits, ?_, fun hmode hkeep => h.captured hmode hkeep, ?_, h.closes,
    mode_press_filterEntry s control key, ⟨h.tells rfl, ?_⟩⟩
  · intro hquit
    show (s.press control key).1 = _
    rw [press_of_quitsBy s control (hquits.mp hquit)]
    rfl
  · intro buffer hmode henter
    show (s.press control key).1.session = _
    rw [press_takes s control key buffer hmode henter]
    rfl
  · rintro (hasked | ⟨hmode, hkey⟩)
    · exact h.told rfl hasked
    · exact status_press_of_setsInterval s control hmode hkey

end Session

end ProcessMonitor
