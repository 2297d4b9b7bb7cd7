-- The laws of the screen of a whole run. The turns that a loop takes draw one frame each
-- and handle one key each, as far as they get, and each begins where the one before it
-- ended. So what the terminal gets is the sequence that takes the screen over, the frames
-- of the turns in order, and the sequence that gives it back.
import ProcessMonitor.Proofs.Turns
import ProcessMonitor.Run.Program

namespace ProcessMonitor

/-! ## A frame that breaks off -/

namespace Screen.Stroke

theorem toList_encodeAll_cons (stroke : Stroke) (rest : List Stroke) :
    (encodeAll (stroke :: rest)).toList = stroke.encode.toList ++ (encodeAll rest).toList := by
  simp [encodeAll]

/-- Strokes that are cut write the first characters of the strokes. -/
theorem toList_encodeAll_cut (room : Nat) (strokes : List Stroke) :
    (encodeAll (cut room strokes)).toList = (encodeAll strokes).toList.take room := by
  induction strokes generalizing room with
  | nil => simp [cut, encodeAll]
  | cons stroke rest ih =>
    rw [cut, toList_encodeAll_cons, List.take_append, String.length_toList]
    split
    · rename_i hroom
      have hwhole : stroke.encode.toList.take room = stroke.encode.toList :=
        List.take_of_length_le (by rwa [String.length_toList])
      rw [toList_encodeAll_cons, ih, hwhole]
    · rename_i hroom
      have hnone : room - stroke.encode.length = 0 := by omega
      rw [hnone, List.take_zero, List.append_nil, toList_encodeAll_cons]
      simp [encode, encodeAll]

end Screen.Stroke

namespace Run

open Screen (Layout Stroke)

/-! ## Texts of deeds -/

/-- All that deeds write to the terminal. -/
def textOf (deeds : List Deed) : String := String.join (deeds.map Deed.written)

/-- Other deeds than those on the screen write nothing. -/
theorem textOf_screenOf (deeds : List Deed) : textOf (screenOf deeds) = textOf deeds := by
  induction deeds with
  | nil => rfl
  | cons deed rest ih =>
    have hjoin (other : List Deed) : textOf (deed :: other) = deed.written ++ textOf other := by
      simp [textOf]
    cases deed with
    | entered | drew | restored =>
      rw [screenOf, List.filter_cons_of_pos rfl, hjoin, hjoin, ← ih, screenOf]
    | handled | sampled | requested | reported | told =>
      rw [screenOf, List.filter_cons_of_neg (by simp [Deed.isOnScreen]), hjoin, ← ih, screenOf]
      simp [Deed.written]

section Runs

variable {World Memory : Type} (outside : Outside World Memory) (state : State Memory)
  (turn : Turn World)

/-! ## The loop -/

/-- The turns that a loop takes, each with the state that it finds. -/
def played : State Memory → List (Turn World) → List (State Memory × Turn World)
  | _, [] => []
  | state, turn :: rest =>
    let turned := takeTurn outside turn state
    (state, turn) :: if turned.ending.isSome then [] else played turned.state rest

variable (turns : List (Turn World))

theorem played_prefix_script : (played outside state turns).map Prod.snd <+: turns := by
  induction turns generalizing state with
  | nil => exact List.prefix_rfl
  | cons turn rest ih =>
    rw [played, List.map_cons, List.prefix_cons_inj]
    split
    · exact List.nil_prefix
    · exact ih _

theorem head?_played : ∀ entry ∈ (played outside state turns).head?, entry.1 = state := by
  cases turns with
  | nil => simp [played]
  | cons turn rest => simp [played]

/-- A turn begins in the state that the one before it left, which went on. -/
theorem played_next {before after : List (State Memory × Turn World)}
    {entry following : State Memory × Turn World}
    (h : played outside state turns = before ++ entry :: following :: after) :
    (takeTurn outside entry.2 entry.1).ending = none ∧
      following.1 = (takeTurn outside entry.2 entry.1).state := by
  induction turns generalizing state before with
  | nil => simp [played] at h
  | cons turn rest ih =>
    rw [played] at h
    cases hending : (takeTurn outside turn state).ending with
    | some ending =>
      simp only [hending, Option.isSome_some, if_true] at h
      cases before <;> simp at h
    | none =>
      simp only [hending, Option.isSome_none, Bool.false_eq_true, if_false] at h
      cases before with
      | cons first before => exact ih _ (List.cons.inj h).2
      | nil =>
        obtain ⟨rfl, hrest⟩ := List.cons.inj h
        exact ⟨hending, head?_played outside _ rest following (by simp [hrest])⟩

/-- The deeds of a loop are those of its turns. -/
theorem deeds_loop :
    (loop outside state turns).deeds =
      (played outside state turns).flatMap fun entry => (takeTurn outside entry.2 entry.1).deeds := by
  induction turns generalizing state with
  | nil => rfl
  | cons turn rest ih =>
    rw [loop, played, List.flatMap_cons]
    cases hending : (takeTurn outside turn state).ending with
    | some ending => simp
    | none => simp [Finished.after, ih]

theorem screenOf_loop :
    screenOf (loop outside state turns).deeds =
      ((played outside state turns).filterMap fun entry => frameOf entry.1 entry.2).map
        Deed.drew := by
  rw [deeds_loop]
  induction played outside state turns with
  | nil => rfl
  | cons entry rest ih =>
    rw [List.flatMap_cons, screenOf_append, ih, (took_takeTurn outside entry.1 entry.2).screen]
    cases hframe : frameOf entry.1 entry.2 <;> simp [hframe]

theorem keysOf_loop :
    keysOf (loop outside state turns).deeds =
      (played outside state turns).filterMap fun entry => keyOf entry.1 entry.2 := by
  rw [deeds_loop]
  induction played outside state turns with
  | nil => rfl
  | cons entry rest ih =>
    rw [List.flatMap_cons, keysOf_append, ih, (took_takeTurn outside entry.1 entry.2).keys]
    cases hkey : keyOf entry.1 entry.2 <;> simp [hkey]

theorem toldOf_loop : toldOf (loop outside state turns).deeds = [] := by
  rw [deeds_loop]
  induction played outside state turns with
  | nil => rfl
  | cons entry rest ih =>
    rw [List.flatMap_cons, toldOf_append, ih, (took_takeTurn outside entry.1 entry.2).told,
      List.append_nil]

/-- A turn that ends the loop is its last one. -/
theorem loop_of_ending {before after : List (State Memory × Turn World)}
    {entry : State Memory × Turn World} {ending : LoopEnd}
    (h : played outside state turns = before ++ entry :: after)
    (hending : (takeTurn outside entry.2 entry.1).ending = some ending) :
    after = [] ∧ (loop outside state turns).ending = ending ∧
      (loop outside state turns).state = (takeTurn outside entry.2 entry.1).state ∧
      ∃ earlier, (loop outside state turns).deeds =
        earlier ++ (takeTurn outside entry.2 entry.1).deeds := by
  induction turns generalizing state before with
  | nil => simp [played] at h
  | cons turn rest ih =>
    rw [played] at h
    rw [loop]
    cases before with
    | nil =>
      obtain ⟨rfl, hafter⟩ := List.cons.inj h
      dsimp only at hending
      simp only [hending, Option.isSome_some, if_true] at hafter
      rw [hending]
      exact ⟨hafter.symm, rfl, rfl, [], rfl⟩
    | cons first before =>
      obtain ⟨rfl, hafter⟩ := List.cons.inj h
      cases hfirst : (takeTurn outside turn state).ending with
      | some other =>
        simp [hfirst] at hafter
      | none =>
        simp only [hfirst, Option.isSome_none, Bool.false_eq_true, if_false] at hafter
        obtain ⟨hnone, hends, hstate, earlier, hdeeds⟩ := ih _ hafter
        refine ⟨hnone, hends, hstate, (takeTurn outside turn state).deeds ++ earlier, ?_⟩
        rw [Finished.after, hdeeds, List.append_assoc]

/-- The end of a loop is that of its last turn, unless the script ends first. -/
theorem exists_last_played (h : (loop outside state turns).ending ≠ .unfinished) :
    ∃ entry ∈ played outside state turns,
      (takeTurn outside entry.2 entry.1).ending = some (loop outside state turns).ending := by
  induction turns generalizing state with
  | nil => exact absurd rfl h
  | cons turn rest ih =>
    rw [loop] at h ⊢
    rw [played]
    cases hending : (takeTurn outside turn state).ending with
    | some ending => exact ⟨(state, turn), List.mem_cons_self, by simp [hending]⟩
    | none =>
      simp only [hending] at h ⊢
      obtain ⟨entry, hentry, hlast⟩ := ih _ h
      exact ⟨entry, List.mem_cons_of_mem _ (by simpa using hentry), hlast⟩

/-! ## The run -/

variable (setting : Setting World Memory) (options : CommandLine.Options)

theorem silent_start : ∀ deed ∈ (start setting options).deeds, deed.Silent := by
  have hopened (path : Option String) : ∀ deed ∈ path.toList.map fun path =>
      Deed.reported ⟨.info, .program, "logging to " ++ path⟩, deed.Silent := by
    intro deed hdeed
    obtain ⟨text, _, rfl⟩ := List.mem_map.mp hdeed
    exact silent_reported _
  unfold start
  split
  · exact fun deed hdeed => absurd hdeed List.not_mem_nil
  · rename_i path _
    dsimp only
    split
    · exact hopened path
    · simp only [List.append_assoc]
      refine List.forall_mem_append.mpr ⟨hopened path, List.forall_mem_append.mpr
        ⟨silent_map_reported _, List.forall_mem_append.mpr ⟨?_, silent_samplePass _ _ _ _⟩⟩⟩
      exact List.forall_mem_singleton.mpr (silent_reported _)

/-- What is said of an error stays off the screen. -/
theorem screenOf_errors (error : Option String) :
    screenOf (error.toList.flatMap errorDeeds) = [] := by
  cases error <;> rfl

theorem keysOf_errors (error : Option String) :
    keysOf (error.toList.flatMap errorDeeds) = [] := by
  cases error <;> rfl

theorem silent_exitReports (ending : LoopEnd) : ∀ deed ∈ exitReports ending, deed.Silent := by
  cases ending with
  | quit | stopped => exact List.forall_mem_singleton.mpr (silent_reported _)
  | failed | unfinished => exact fun deed hdeed => absurd hdeed List.not_mem_nil

section Failed

variable {message : String} (h : (start setting options).state = .error message)

include h

theorem run_of_error :
    run setting options turns =
      { state := none, deeds := (start setting options).deeds, error := some message } := by
  simp [run, h]

/-- A run that fails before it comes to the screen leaves it alone. -/
theorem program_of_error :
    screenOf (program setting options turns).deeds = [] ∧
      (program setting options turns).exitCode = 1 := by
  have hrun := run_of_error turns setting options h
  refine ⟨?_, by simp [program, hrun, Ran.exitCode]⟩
  rw [program, hrun, screenOf_append, screenOf_silent (silent_start setting options),
    screenOf_errors]
  rfl

end Failed

section Started

variable {setting options state} (h : (start setting options).state = .ok state)

include h

theorem deeds_program :
    (program setting options turns).deeds =
      (start setting options).deeds ++ (onScreen setting state turns).deeds ++
        (onScreen setting state turns).error.toList.flatMap errorDeeds := by
  simp [program, run, h]

theorem exitCode_program :
    (program setting options turns).exitCode = (onScreen setting state turns).exitCode := by
  simp [program, run, h, Ran.exitCode]

/-- What a run does before and after it has the screen stays off the screen. -/
theorem screenOf_program :
    screenOf (program setting options turns).deeds = screenOf (onScreen setting state turns).deeds := by
  rw [deeds_program turns h, screenOf_append, screenOf_append,
    screenOf_silent (silent_start setting options), screenOf_errors, List.nil_append,
    List.append_nil]

theorem keysOf_program :
    keysOf (program setting options turns).deeds = keysOf (onScreen setting state turns).deeds := by
  rw [deeds_program turns h, keysOf_append, keysOf_append,
    keysOf_silent (silent_start setting options), keysOf_errors, List.nil_append,
    List.append_nil]

end Started

theorem onScreen_noRawMode {setting : Setting World Memory} {fault : Fault}
    (h : setting.entering = .noRawMode fault) :
    (onScreen setting state turns).deeds = [] ∧ (onScreen setting state turns).exitCode = 1 := by
  simp [onScreen, h, Ran.exitCode]

theorem onScreen_broken {setting : Setting World Memory} {characters : Nat} {fault : Fault}
    (h : setting.entering = .broken characters fault) :
    (onScreen setting state turns).deeds =
        [.entered (String.ofList (enterSequence.toList.take characters)), .restored] ∧
      (onScreen setting state turns).exitCode = 1 := by
  simp [onScreen, h, Ran.exitCode]

section Entered

variable {setting} (h : setting.entering = .done)

include h

theorem deeds_onScreen :
    (onScreen setting state turns).deeds =
      .entered enterSequence :: (loop setting.outside state turns).deeds ++
        exitReports (loop setting.outside state turns).ending ++ [.restored] := by
  simp [onScreen, h]

theorem error_onScreen :
    (onScreen setting state turns).error = (loop setting.outside state turns).ending.error? := by
  simp [onScreen, h]

theorem screenOf_onScreen :
    screenOf (onScreen setting state turns).deeds =
      .entered enterSequence :: ((played setting.outside state turns).filterMap fun entry =>
        frameOf entry.1 entry.2).map Deed.drew ++ [.restored] := by
  rw [deeds_onScreen state turns h, screenOf_append, screenOf_append,
    screenOf_silent (silent_exitReports _), List.append_nil, ← screenOf_loop, screenOf,
    List.filter_cons_of_pos rfl]
  rfl

theorem keysOf_onScreen :
    keysOf (onScreen setting state turns).deeds =
      (played setting.outside state turns).filterMap fun entry => keyOf entry.1 entry.2 := by
  rw [deeds_onScreen state turns h, keysOf_append, keysOf_append,
    keysOf_silent (silent_exitReports _), List.append_nil, ← keysOf_loop, keysOf,
    List.filterMap_cons_none rfl]
  exact List.append_nil _

end Entered

theorem toldOf_onScreen : toldOf (onScreen setting state turns).deeds = [] := by
  cases hentering : setting.entering with
  | noRawMode fault => simp [onScreen, hentering, toldOf]
  | broken characters fault => simp [onScreen, hentering, toldOf]
  | done =>
    rw [deeds_onScreen state turns hentering, toldOf_append, toldOf_append, toldOf_cons,
      toldOf_loop, toldOf_silent (silent_exitReports _)]
    rfl

/-- The text of a screen that is taken over, drawn on and given back. -/
theorem textOf_screen (frames : List (List Stroke)) :
    textOf (.entered enterSequence :: frames.map Deed.drew ++ [.restored]) =
      enterSequence ++ String.join (frames.map Stroke.encodeAll) ++ restoreSequence := by
  have hframes : (frames.map Deed.drew).map Deed.written = frames.map Stroke.encodeAll := by
    rw [List.map_map]
    rfl
  rw [textOf, List.map_append, List.map_cons, hframes]
  simp [String.join_append, Deed.written, String.append_assoc]

/-- The turns that a run takes, each with the state that it finds. It takes none unless
it gets the screen. -/
def turnsTaken (setting : Setting World Memory) (options : CommandLine.Options)
    (turns : List (Turn World)) : List (State Memory × Turn World) :=
  match (start setting options).state, setting.entering with
  | .ok state, .done => played setting.outside state turns
  | _, _ => []

/-- How a program ends: the run gives the screen back before anything is said of its
error. -/
def closing : LoopEnd → List Deed
  | .quit | .stopped => [.reported ⟨.info, .program, "exiting"⟩, .restored]
  | .failed message =>
    [.restored, .reported ⟨.error, .program, message⟩, .told ("hitop: " ++ message)]
  | .unfinished => [.restored]

theorem closing_eq (ending : LoopEnd) :
    closing ending =
      exitReports ending ++ [.restored] ++ ending.error?.toList.flatMap errorDeeds := by
  cases ending <;> rfl

theorem turnsTaken_prefix_script : (turnsTaken setting options turns).map Prod.snd <+: turns := by
  unfold turnsTaken
  split
  · exact played_prefix_script setting.outside _ turns
  · exact List.nil_prefix

theorem keysOf_taken :
    keysOf (program setting options turns).deeds =
      (turnsTaken setting options turns).filterMap fun entry => keyOf entry.1 entry.2 := by
  unfold turnsTaken
  cases hstart : (start setting options).state with
  | error message =>
    rw [program, run_of_error turns setting options hstart, keysOf_append,
      keysOf_silent (silent_start setting options), keysOf_errors]
    rfl
  | ok state =>
    rw [keysOf_program turns hstart]
    cases hentering : setting.entering with
    | done => exact keysOf_onScreen state turns hentering
    | noRawMode fault => simp [onScreen, hentering, keysOf]
    | broken characters fault => simp [onScreen, hentering, keysOf, Deed.key?]

/-- A program says nothing on the error output in front of what it says of its error. -/
theorem deeds_told : ∃ earlier, toldOf earlier = [] ∧
    (program setting options turns).deeds =
      earlier ++ (program setting options turns).error.toList.flatMap errorDeeds := by
  refine ⟨(run setting options turns).deeds, ?_, rfl⟩
  have hstarted := toldOf_silent (silent_start setting options)
  cases hstart : (start setting options).state with
  | error message => rwa [run_of_error turns setting options hstart]
  | ok state =>
    simp only [run, hstart]
    rw [toldOf_append, hstarted, toldOf_onScreen, List.append_nil]

theorem taken_next {before after : List (State Memory × Turn World)}
    {state next : State Memory} {turn following : Turn World}
    (h : turnsTaken setting options turns =
      before ++ (state, turn) :: (next, following) :: after) :
    ∃ size, turn.size = .ok size ∧ next = stateAfter setting.outside state turn size := by
  unfold turnsTaken at h
  split at h
  · obtain ⟨hending, hnext⟩ := played_next setting.outside _ turns h
    obtain ⟨size, hsize, hstate⟩ := (took_takeTurn setting.outside state turn).of_going hending
    exact ⟨size, hsize, hnext.trans hstate⟩
  · simp at h

section Last

variable {setting options turns} {before after : List (State Memory × Turn World)}
  {state : State Memory} {turn : Turn World} {ending : LoopEnd}
  (h : turnsTaken setting options turns = before ++ (state, turn) :: after)

include h

/-- The turn that ends the loop is the last thing that a run does, but for the closing. -/
theorem deeds_of_last (hending : (takeTurn setting.outside turn state).ending = some ending) :
    after = [] ∧
      (program setting options turns).exitCode = (if ending.error?.isSome then 1 else 0) ∧
      (program setting options turns).state = some (takeTurn setting.outside turn state).state ∧
      ∃ earlier, (program setting options turns).deeds =
        earlier ++ (takeTurn setting.outside turn state).deeds ++ closing ending := by
  unfold turnsTaken at h
  split at h
  · rename_i begun hstart hentering
    obtain ⟨hafter, hends, hstate, earlier, hdeeds⟩ :=
      loop_of_ending setting.outside begun turns h hending
    refine ⟨hafter, ?_, ?_, (start setting options).deeds ++ .entered enterSequence :: earlier, ?_⟩
    · rw [exitCode_program turns hstart, Ran.exitCode, error_onScreen begun turns hentering, hends]
    · simp [program, run, hstart, onScreen, hentering, hstate]
    · rw [deeds_program turns hstart, error_onScreen begun turns hentering,
        deeds_onScreen begun turns hentering, hends, hdeeds, closing_eq]
      simp
  · simp at h

theorem last_of_stopped (hstopped : turn.stopped = true) :
    after = [] ∧ (program setting options turns).exitCode = 0 ∧
      (program setting options turns).state = some state ∧
      ∃ earlier, (program setting options turns).deeds =
        earlier ++ .reported stopReport :: closing .stopped := by
  have htook := took_takeTurn setting.outside state turn
  have hturned := htook.of_stopped hstopped
  obtain ⟨hafter, hcode, hstate, earlier, hdeeds⟩ :=
    deeds_of_last h (htook.ending_stopped.mpr hstopped)
  rw [hturned] at hstate hdeeds
  exact ⟨hafter, hcode, hstate, earlier, by rw [hdeeds, List.append_assoc]; rfl⟩

theorem last_of_quits {key : Key} (hkey : keyOf state turn = some key)
    (hquits : state.session.QuitsBy key) :
    after = [] ∧ (program setting options turns).exitCode = 0 ∧
      (∃ size, turn.size = .ok size ∧ (program setting options turns).state =
        some (keyed setting.outside state turn size).1) ∧
      ∃ earlier frame, (program setting options turns).deeds =
        earlier ++ .drew frame :: .handled key :: closing .quit := by
  have htook := took_takeTurn setting.outside state turn
  obtain ⟨size, frame, hsize, hturned⟩ := htook.of_quits hkey hquits
  obtain ⟨hafter, hcode, hstate, earlier, hdeeds⟩ :=
    deeds_of_last h (htook.ending_quit.mpr ⟨key, hkey, hquits⟩)
  rw [hturned] at hstate hdeeds
  exact ⟨hafter, hcode, ⟨size, hsize, hstate⟩, earlier, frame,
    by rw [hdeeds, List.append_assoc]; rfl⟩

theorem last_of_fault {fault : Fault} (hfault : faultOf state turn = some fault) :
    after = [] ∧ (program setting options turns).exitCode = 1 ∧
      ∃ earlier, (program setting options turns).deeds =
        earlier ++ (frameOf state turn).toList.map Deed.drew ++
          closing (.failed (faultText turn fault)) := by
  have htook := took_takeTurn setting.outside state turn
  obtain ⟨hending, hturn⟩ := htook.of_fault hfault
  obtain ⟨hafter, hcode, -, earlier, hdeeds⟩ := deeds_of_last h hending
  exact ⟨hafter, hcode, earlier, by rw [hdeeds, hturn]⟩

end Last

/-- A turn that gets its size draws the frame for it, whole or its first characters. -/
theorem frameOf_drawing {size : Nat × Nat} (hgo : turn.stopped = false)
    (hsize : turn.size = .ok size) :
    match turn.drawing with
    | .whole => frameOf state turn = some (frameFor state size turn.clock)
    | .broken characters _ => ∃ strokes, frameOf state turn = some strokes ∧
        (Stroke.encodeAll strokes).toList =
          (Stroke.encodeAll (frameFor state size turn.clock)).toList.take characters := by
  cases hdrawing : turn.drawing with
  | whole => simp [frameOf, hgo, hsize, hdrawing]
  | broken characters fault =>
    exact ⟨_, by simp [frameOf, hgo, hsize, hdrawing], Stroke.toList_encodeAll_cut ..⟩

/-- A run that got the screen and came to its end met a stop, a key that quits or a
fault. -/
theorem exists_last_taken (hfinished : (program setting options turns).finished = true)
    (hstart : (start setting options).state = .ok state) (hentering : setting.entering = .done) :
    ∃ state turn, (state, turn) ∈ turnsTaken setting options turns ∧
      (turn.stopped = true ∨ Quits state turn ∨ (faultOf state turn).isSome) := by
  have hends : (loop setting.outside state turns).ending ≠ .unfinished := by
    simpa [program, run, hstart, onScreen, hentering] using hfinished
  have htaken : turnsTaken setting options turns = played setting.outside state turns := by
    simp [turnsTaken, hstart, hentering]
  obtain ⟨⟨last, turn⟩, hmem, hlast⟩ := exists_last_played setting.outside state turns hends
  have htook := took_takeTurn setting.outside last turn
  refine ⟨last, turn, htaken ▸ hmem, ?_⟩
  cases hending : (loop setting.outside state turns).ending with
  | stopped => exact Or.inl (htook.ending_stopped.mp (hending ▸ hlast))
  | quit => exact Or.inr (Or.inl (htook.ending_quit.mp (hending ▸ hlast)))
  | failed message =>
    have hfault := htook.ending_failed.mp ⟨message, hending ▸ hlast⟩
    exact Or.inr (Or.inr (Option.isSome_iff_exists.mpr hfault))
  | unfinished => exact absurd hending hends

end Runs

/-! ## The laws -/

/-- A run that gets the screen writes the sequence that takes it over, then the frames of
its turns in order, then the sequence that gives it back, and nothing else. A run that gets
only a part of the first sequence through gives the screen back at once, and a run that
gets no raw mode or fails before writes nothing. An error is told last, on the error output.

A turn reads a key where its wait finds input and a key is pressed there, and the keys that
the turns read are the ones handled. Each turn begins in the state that the one before it
left: its key pressed over the session that it drew, and a pass behind the key where one is
due. A stop, a key that quits and a fault end the run: no turn follows, and what is left to
do is the closing. -/
theorem a_run_draws_between_taking_the_screen_and_giving_it_back {World Memory : Type}
    (setting : Setting World Memory) (options : CommandLine.Options) (turns : List (Turn World)) :
    let ran := program setting options turns
    let taken := turnsTaken setting options turns
    let frames := taken.filterMap fun entry => frameOf entry.1 entry.2
    let enter := "\x1b[?1049h\x1b[?7l\x1b[?25l"
    let restore := "\x1b[0m\x1b[?25h\x1b[?7h\x1b[?1049l"
    (match (start setting options).state, setting.entering with
      | .ok begun, .done =>
        screenOf ran.deeds = .entered enter :: frames.map Deed.drew ++ [.restored] ∧
          textOf ran.deeds = enter ++ String.join (frames.map Stroke.encodeAll) ++ restore ∧
          (∀ entry ∈ taken.head?, entry.1 = begun) ∧
          (ran.finished = true → ∃ state turn, (state, turn) ∈ taken ∧
            (turn.stopped = true ∨ Quits state turn ∨ (faultOf state turn).isSome))
      | .ok _, .broken characters _ =>
        let part := String.ofList (enter.toList.take characters)
        screenOf ran.deeds = [.entered part, .restored] ∧ textOf ran.deeds = part ++ restore ∧
          taken = [] ∧ ran.exitCode = 1
      | .ok _, .noRawMode _ | .error _, _ =>
        screenOf ran.deeds = [] ∧ textOf ran.deeds = "" ∧ taken = [] ∧ ran.exitCode = 1) ∧
    (taken.map Prod.snd <+: turns ∧
      keysOf ran.deeds = taken.filterMap fun entry => keyOf entry.1 entry.2) ∧
    (∃ earlier, toldOf earlier = [] ∧ ran.deeds = earlier ++
      match ran.error with
      | none => []
      | some message => [.reported ⟨.error, .program, message⟩, .told ("hitop: " ++ message)]) ∧
    (∀ (state : State Memory) (turn : Turn World),
      (∀ key, keyOf state turn = some key ↔ Reads state turn key) ∧
        ∀ fault, faultOf state turn = some fault ↔ Meets state turn fault) ∧
    (∀ before state turn next following after,
      taken = before ++ (state, turn) :: (next, following) :: after →
        ∃ size, turn.size = .ok size ∧ next = stateAfter setting.outside state turn size) ∧
    ∀ before state turn after, taken = before ++ (state, turn) :: after →
      (∀ size, turn.stopped = false → turn.size = .ok size →
        match turn.drawing with
        | .whole => frameOf state turn = some (frameFor state size turn.clock)
        | .broken characters _ => ∃ strokes, frameOf state turn = some strokes ∧
            (Stroke.encodeAll strokes).toList =
              (Stroke.encodeAll (frameFor state size turn.clock)).toList.take characters) ∧
      (turn.stopped = true → after = [] ∧ ran.exitCode = 0 ∧ ran.state = some state ∧
        ∃ earlier, ran.deeds = earlier ++ .reported stopReport :: closing .stopped) ∧
      (∀ key, keyOf state turn = some key → state.session.QuitsBy key →
        after = [] ∧ ran.exitCode = 0 ∧
          (∃ size, turn.size = .ok size ∧
            ran.state = some (keyed setting.outside state turn size).1) ∧
          ∃ earlier frame, ran.deeds = earlier ++ .drew frame :: .handled key :: closing .quit) ∧
      (∀ fault, faultOf state turn = some fault → after = [] ∧ ran.exitCode = 1 ∧
        ∃ earlier, ran.deeds = earlier ++ (frameOf state turn).toList.map Deed.drew ++
          closing (.failed (faultText turn fault))) := by
  refine ⟨?ways, ⟨turnsTaken_prefix_script turns setting options,
    keysOf_taken turns setting options⟩, ?told, fun state turn =>
      ⟨keyOf_eq_some_iff state turn, faultOf_eq_some_iff state turn⟩,
    fun before state turn next following after => taken_next turns setting options,
    fun before state turn after h => ⟨fun size => frameOf_drawing state turn,
      last_of_stopped h, fun key => last_of_quits h, fun fault => last_of_fault h⟩⟩
  case told =>
    obtain ⟨earlier, htold, hdeeds⟩ := deeds_told turns setting options
    refine ⟨earlier, htold, hdeeds.trans (congrArg (earlier ++ ·) ?_)⟩
    cases (program setting options turns).error <;> rfl
  case ways =>
    cases hstart : (start setting options).state with
    | error message =>
      obtain ⟨hscreen, hcode⟩ := program_of_error turns setting options hstart
      exact ⟨hscreen, by rw [← textOf_screenOf, hscreen]; rfl, by simp [turnsTaken, hstart], hcode⟩
    | ok begun =>
      have hscreen := screenOf_program turns hstart
      have hcode := exitCode_program turns hstart
      cases hentering : setting.entering with
      | noRawMode fault =>
        obtain ⟨hnone, hfails⟩ := onScreen_noRawMode begun turns hentering
        rw [hnone] at hscreen
        rw [hfails] at hcode
        exact ⟨hscreen, by rw [← textOf_screenOf, hscreen]; rfl,
          by simp [turnsTaken, hentering], hcode⟩
      | broken characters fault =>
        obtain ⟨hbroken, hfails⟩ := onScreen_broken begun turns hentering
        rw [hbroken] at hscreen
        rw [hfails] at hcode
        refine ⟨hscreen, ?_, by simp [turnsTaken, hentering], hcode⟩
        rw [← textOf_screenOf, hscreen, textOf_screenOf]
        simp [textOf, Deed.written, restoreSequence, enterSequence]
      | done =>
        have htaken : turnsTaken setting options turns = played setting.outside begun turns := by
          simp [turnsTaken, hstart, hentering]
        rw [screenOf_onScreen begun turns hentering, ← htaken] at hscreen
        refine ⟨hscreen, ?_, ?_, fun hfinished =>
          exists_last_taken begun turns setting options hfinished hstart hentering⟩
        · rw [← textOf_screenOf, hscreen]
          exact textOf_screen _
        · rw [htaken]
          exact head?_played setting.outside begun turns

end Run

end ProcessMonitor
