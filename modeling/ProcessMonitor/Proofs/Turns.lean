-- One turn of the main loop, by all the ways that it can go: what it shows, which key it
-- handles, how it ends and what it leaves. A turn draws one frame at most and handles one
-- key at most, and it ends the loop as soon as it sees a request to stop, a key that quits
-- or a fault.
import ProcessMonitor.Proofs.KeyEffects
import ProcessMonitor.Proofs.TurnInput

namespace ProcessMonitor

namespace Run

open Screen (Layout Stroke)

/-! ## Deeds -/

namespace Deed

/-- Writes to the terminal. -/
def isOnScreen : Deed → Bool
  | .entered _ | .drew _ | .restored => true
  | _ => false

def key? : Deed → Option Key
  | .handled key => some key
  | _ => none

/-- A pass, a request or a report. -/
def Silent (deed : Deed) : Prop :=
  deed.isOnScreen = false ∧ deed.key? = none ∧ toldOf [deed] = []

end Deed

/-- The deeds that write to the terminal, in order. -/
def screenOf (deeds : List Deed) : List Deed := deeds.filter Deed.isOnScreen

/-- The keys that were handled, in order. -/
def keysOf (deeds : List Deed) : List Key := deeds.filterMap Deed.key?

theorem screenOf_append (first more : List Deed) :
    screenOf (first ++ more) = screenOf first ++ screenOf more := List.filter_append first more

theorem keysOf_append (first more : List Deed) :
    keysOf (first ++ more) = keysOf first ++ keysOf more := List.filterMap_append

theorem toldOf_append (first more : List Deed) :
    toldOf (first ++ more) = toldOf first ++ toldOf more := List.filterMap_append

theorem toldOf_cons (deed : Deed) (rest : List Deed) :
    toldOf (deed :: rest) = toldOf [deed] ++ toldOf rest := toldOf_append [deed] rest

theorem screenOf_silent {deeds : List Deed} (h : ∀ deed ∈ deeds, deed.Silent) :
    screenOf deeds = [] :=
  List.filter_eq_nil_iff.mpr fun deed hdeed => by simp [(h deed hdeed).1]

theorem keysOf_silent {deeds : List Deed} (h : ∀ deed ∈ deeds, deed.Silent) :
    keysOf deeds = [] := List.filterMap_eq_nil_iff.mpr fun deed hdeed => (h deed hdeed).2.1

theorem toldOf_silent {deeds : List Deed} (h : ∀ deed ∈ deeds, deed.Silent) :
    toldOf deeds = [] := by
  induction deeds with
  | nil => rfl
  | cons deed rest ih =>
    obtain ⟨hdeed, hrest⟩ := List.forall_mem_cons.mp h
    rw [toldOf_cons, hdeed.2.2, ih hrest, List.append_nil]

theorem silent_reported (entry : Log.Entry) : (Deed.reported entry).Silent := ⟨rfl, rfl, rfl⟩

theorem silent_map_reported (reports : List Log.Entry) :
    ∀ deed ∈ reports.map Deed.reported, deed.Silent := by
  intro deed hdeed
  obtain ⟨entry, _, rfl⟩ := List.mem_map.mp hdeed
  exact silent_reported entry

/-! ## What a turn shows and leaves -/

section Turns

variable {World Memory : Type}

/-- The session of a state on a screen of this size, with the window of the list set to the
rows that the layout leaves for it. -/
def sessionFor (state : State Memory) (size : Nat × Nat) : Session :=
  let layout := Layout.compute size.1 size.2 state.session.history.cores.length
  { state.session with table := state.session.table.setRows layout.tableRows }

/-- The frame of a state on a screen of this size. -/
def frameFor (state : State Memory) (size : Nat × Nat) (clock : String) : List Stroke :=
  Screen.frame (sessionFor state size)
    (Layout.compute size.1 size.2 state.session.history.cores.length) clock

/-- What a turn draws in a state. It draws nothing when a stop is asked for or the
terminal does not tell its size. -/
def frameOf (state : State Memory) (turn : Turn World) : Option (List Stroke) :=
  if turn.stopped then none
  else
    match turn.size, turn.drawing with
    | .error _, _ => none
    | .ok size, .whole => some (frameFor state size turn.clock)
    | .ok size, .broken characters _ => some (Stroke.cut characters (frameFor state size turn.clock))

/-- What is said of a fault that a turn meets. -/
def faultText (turn : Turn World) (fault : Fault) : String :=
  match turn.size with
  | .error _ => "cannot query terminal size: " ++ fault.text
  | .ok _ => fault.text

/-- The turn reads a key that ends the run. -/
def Quits (state : State Memory) (turn : Turn World) : Prop :=
  ∃ key, keyOf state turn = some key ∧ state.session.QuitsBy key

section Leaves

variable (outside : Outside World Memory) (state : State Memory) (turn : Turn World)
  (size : Nat × Nat)

/-- The state behind the key of a turn, which is pressed over the session that the turn drew,
and whether the key asks for a pass. -/
def keyed : State Memory × Bool :=
  let shown := sessionFor state size
  match keyOf state turn with
  | none => ({ state with session := shown }, false)
  | some key =>
    let (effect, action) := shown.press (outside.control turn.world state.requests) key
    ({ state with session := effect.session, requests := state.requests ++ effect.requests },
      action = .refresh)

/-- The state behind a turn that the loop goes on from. A pass follows the key when the key
asks for one or the interval since the last pass is over. -/
def stateAfter : State Memory :=
  let (handled, asked) := keyed outside state turn size
  if asked = true ∨ handled.session.interval ≤ turn.checked - handled.lastPass then
    let (reading, memory, _) := outside.read turn.world handled.memory
    { handled with
      session := (handled.session.refresh reading).session, memory, lastPass := turn.sampled }
  else handled

end Leaves

variable (outside : Outside World Memory) (state : State Memory) (turn : Turn World)

/-- What a turn does, with what it meets that makes it do so. -/
inductive Took : Turned Memory → Prop
  | stopped (h : turn.stopped = true) : Took ⟨state, [.reported stopReport], some .stopped⟩
  | failed (next : State Memory) (fault : Fault)
      (hfault : faultOf state turn = some fault) (hkey : keyOf state turn = none)
      (hgo : turn.stopped = false) :
    Took ⟨next, (frameOf state turn).toList.map Deed.drew,
      some (.failed (faultText turn fault))⟩
  | quit (size : Nat × Nat) (frame : List Stroke) (key : Key) (hsize : turn.size = .ok size)
      (hframe : frameOf state turn = some frame) (hkey : keyOf state turn = some key)
      (hfault : faultOf state turn = none) (hgo : turn.stopped = false)
      (hquits : state.session.QuitsBy key) :
    Took ⟨(keyed outside state turn size).1, [.drew frame, .handled key], some .quit⟩
  /-- The script ends while the turn waits. -/
  | unfinished (next : State Memory) (frame : List Stroke)
      (hframe : frameOf state turn = some frame) (hkey : keyOf state turn = none)
      (hfault : faultOf state turn = none) (hgo : turn.stopped = false) :
    Took ⟨next, [.drew frame], some .unfinished⟩
  | wentOn (size : Nat × Nat) (frame : List Stroke) (more : List Deed)
      (hsize : turn.size = .ok size) (hframe : frameOf state turn = some frame)
      (hfault : faultOf state turn = none) (hgo : turn.stopped = false)
      (hstay : ¬ Quits state turn) (hmore : ∀ deed ∈ more, deed.Silent) :
    Took ⟨stateAfter outside state turn size,
      .drew frame :: ((keyOf state turn).toList.map Deed.handled ++ more), none⟩

/-! ## One turn -/

theorem silent_samplePass (world : World) (now : Nat) :
    ∀ deed ∈ (samplePass outside world now state).2, deed.Silent := by
  intro deed hdeed
  simp only [samplePass, List.mem_append, List.mem_singleton] at hdeed
  rcases hdeed with (hdeed | rfl) | hdeed
  · exact silent_map_reported _ deed hdeed
  · exact ⟨rfl, rfl, rfl⟩
  · exact silent_map_reported _ deed hdeed

theorem silent_finishTurn (asked : Bool) :
    ∀ deed ∈ (finishTurn outside turn asked state).2, deed.Silent := by
  unfold finishTurn
  split
  · exact silent_samplePass outside state _ _
  · exact fun deed hdeed => absurd hdeed List.not_mem_nil

/-- A key makes requests and reports, and nothing else happens for it. -/
theorem handleKey_deeds (world : World) (key : Key) :
    ∃ more, (handleKey outside world key state).2.2 = .handled key :: more ∧
      ∀ deed ∈ more, deed.Silent := by
  refine ⟨_, List.cons_append .., fun deed hdeed => ?_⟩
  rcases List.mem_append.mp hdeed with hdeed | hdeed
  · obtain ⟨request, _, rfl⟩ := List.mem_map.mp hdeed
    exact ⟨rfl, rfl, rfl⟩
  · exact silent_map_reported _ deed hdeed

/-- A key that quits does nothing but end the run. -/
theorem handleKey_of_quits (world : World) (key : Key) (h : state.session.QuitsBy key) :
    (handleKey outside world key state).2 = (.quit, [.handled key]) := by
  rw [handleKey, Session.press_of_quitsBy _ _ h]
  rfl

theorem quits_iff {key : Key} (hkey : keyOf state turn = some key) :
    Quits state turn ↔ state.session.QuitsBy key := by
  simp [Quits, hkey]

/-- The key of a turn, handled in the state that the turn drew. -/
theorem keyed_of_some (size : Nat × Nat) {key : Key} (hkey : keyOf state turn = some key) :
    let handled := handleKey outside turn.world key (prepareFrame size turn.clock state).1
    keyed outside state turn size = (handled.1, decide (handled.2.1 = .refresh)) := by
  simp only [keyed, hkey]
  rfl

theorem keyed_of_none (size : Nat × Nat) (hkey : keyOf state turn = none) :
    keyed outside state turn size = ((prepareFrame size turn.clock state).1, false) := by
  simp only [keyed, hkey]
  rfl

/-- A turn ends as its key leaves it, with a pass when one is due. -/
theorem stateAfter_eq {size : Nat × Nat} {handled : State Memory} {asked : Bool}
    (h : keyed outside state turn size = (handled, asked)) :
    stateAfter outside state turn size = (finishTurn outside turn asked handled).1 := by
  simp only [stateAfter, h, finishTurn, Bool.or_eq_true, decide_eq_true_eq, ge_iff_le]
  split <;> rfl

section Whole

variable {state turn} {size : Nat × Nat} (hshows : Shows turn size)

include hshows

theorem frameOf_of_shows : frameOf state turn = some (frameFor state size turn.clock) := by
  simp [frameOf, hshows.go, hshows.size, hshows.whole]

/-- The rest of a turn that reads a key. -/
theorem took_handled {key : Key} (hkey : keyOf state turn = some key)
    (hfault : faultOf state turn = none) :
    let (next, action, deeds) :=
      handleKey outside turn.world key (prepareFrame size turn.clock state).1
    Took outside state turn
      (if action = .quit then ⟨next, .drew (frameFor state size turn.clock) :: deeds, some .quit⟩
      else
        let (last, more) := finishTurn outside turn (action = .refresh) next
        ⟨last, .drew (frameFor state size turn.clock) :: deeds ++ more, none⟩) := by
  have hframe : frameOf state turn = some (frameFor state size turn.clock) :=
    frameOf_of_shows hshows
  have hkeyed := keyed_of_some outside state turn size hkey
  obtain ⟨more, hmore, hsilent⟩ :=
    handleKey_deeds outside (prepareFrame size turn.clock state).1 turn.world key
  -- The window of the list says nothing about which keys quit.
  have hquits : (handleKey outside turn.world key (prepareFrame size turn.clock state).1).2.1 =
      .quit ↔ state.session.QuitsBy key :=
    Session.press_eq_quit_iff (sessionFor state size) (outside.control turn.world state.requests)
      key
  have hdone : state.session.QuitsBy key → _ :=
    handleKey_of_quits outside (prepareFrame size turn.clock state).1 turn.world key
  generalize handleKey outside turn.world key (prepareFrame size turn.clock state).1 = handled at *
  obtain ⟨next, action, deeds⟩ := handled
  dsimp only at *
  split
  · rename_i hquit
    obtain ⟨_, rfl⟩ := Prod.mk.inj (hdone (hquits.mp hquit))
    have hended : Took outside state turn ⟨(keyed outside state turn size).1, _, _⟩ :=
      .quit size _ key hshows.size hframe hkey hfault hshows.go (hquits.mp hquit)
    rw [hkeyed] at hended
    exact hended
  · rename_i hstay
    rw [← quits_iff state turn hkey] at hquits
    have hwent : Took outside state turn ⟨stateAfter outside state turn size, _, _⟩ :=
      .wentOn size _ (more ++ (finishTurn outside turn (action = .refresh) next).2) hshows.size
        hframe hfault hshows.go (fun hends => hstay (hquits.mpr hends))
        (List.forall_mem_append.mpr ⟨hsilent, silent_finishTurn outside next turn _⟩)
    rw [hkey, stateAfter_eq outside state turn hkeyed] at hwent
    rw [hmore]
    exact hwent

/-- A wait that ends well gives the key of the turn. -/
theorem of_turnKey {key : Option Key} (h : turnKey turn state = .ok key) :
    keyOf state turn = key ∧ faultOf state turn = none := by
  unfold turnKey at h
  simp only [keyOf, faultOf, hshows.go, hshows.size, hshows.whole, Bool.false_eq_true, if_false]
  cases hwait : waitTurn turn state with
  | failed fault => simp [hwait] at h
  | unfinished => simp [hwait] at h
  | timeout => simpa [hwait] using h
  | stopped => simpa [hwait] using h
  | ready =>
    rcases hevent : turn.event with (_ | fault) | (⟨_ | _ | _, pressed⟩ | _ | _) <;>
      simp only [hwait, hevent, settle, Event.press?, Except.map, Except.mapError,
        Except.ok.injEq, reduceCtorEq] at h
    all_goals exact ⟨h, rfl⟩

theorem of_turnKey_error {ending : LoopEnd} (h : turnKey turn state = .error ending) :
    keyOf state turn = none ∧
      (ending = .unfinished ∧ faultOf state turn = none ∨
        ∃ fault, ending = .failed fault.text ∧ faultOf state turn = some fault) := by
  unfold turnKey at h
  simp only [keyOf, faultOf, hshows.go, hshows.size, hshows.whole, Bool.false_eq_true, if_false]
  cases hwait : waitTurn turn state with
  | failed fault =>
    simp only [hwait, Except.error.injEq] at h
    exact ⟨rfl, Or.inr ⟨fault, h.symm, rfl⟩⟩
  | unfinished =>
    simp only [hwait, Except.error.injEq] at h
    exact ⟨rfl, Or.inl ⟨h.symm, rfl⟩⟩
  | timeout => simp [hwait] at h
  | stopped => simp [hwait] at h
  | ready =>
    -- Of the events behind a wait that finds input, only a fault is an end.
    rcases hevent : turn.event with (_ | fault) | (⟨_ | _ | _, pressed⟩ | _ | _) <;>
      simp [hwait, hevent, settle, Event.press?, Except.map, Except.mapError] at h
    exact ⟨rfl, Or.inr ⟨fault, h.symm, rfl⟩⟩

theorem took_afterFrame :
    Took outside state turn (afterFrame outside turn (frameFor state size turn.clock)
      (prepareFrame size turn.clock state).1) := by
  have hframe : frameOf state turn = some (frameFor state size turn.clock) :=
    frameOf_of_shows hshows
  -- The frame leaves the times and the mode of the state as they are.
  have hread : turnKey turn (prepareFrame size turn.clock state).1 = turnKey turn state := rfl
  unfold afterFrame
  rw [hread]
  split
  · rename_i ending hend
    obtain ⟨hkey, ⟨rfl, hfault⟩ | ⟨fault, rfl, hfault⟩⟩ := of_turnKey_error hshows hend
    · exact .unfinished _ _ hframe hkey hfault hshows.go
    · have hfailed : Took outside state turn ⟨(prepareFrame size turn.clock state).1, _, _⟩ :=
        .failed _ fault hfault hkey hshows.go
      rw [hframe, faultText, hshows.size] at hfailed
      exact hfailed
  · rename_i hend
    obtain ⟨hkey, hfault⟩ := of_turnKey hshows hend
    have hkeyed := keyed_of_none outside state turn size hkey
    have hwent : Took outside state turn ⟨stateAfter outside state turn size, _, _⟩ :=
      .wentOn size _ (finishTurn outside turn false (prepareFrame size turn.clock state).1).2
        hshows.size hframe hfault hshows.go (by simp [Quits, hkey])
        (silent_finishTurn outside _ turn false)
    rw [hkey, stateAfter_eq outside state turn hkeyed] at hwent
    exact hwent
  · rename_i key hend
    obtain ⟨hkey, hfault⟩ := of_turnKey hshows hend
    exact took_handled outside hshows hkey hfault

end Whole

/-- Each turn does one of the things listed above. -/
theorem took_takeTurn : Took outside state turn (takeTurn outside turn state) := by
  unfold takeTurn
  split
  · exact .stopped ‹_›
  · rename_i hstopped
    have hgo : turn.stopped = false := by simpa using hstopped
    split
    · rename_i fault hsize
      have hframe : frameOf state turn = none := by simp [frameOf, hgo, hsize]
      have hfailed : Took outside state turn ⟨state, _, _⟩ :=
        .failed state fault (by simp [faultOf, hgo, hsize]) (by simp [keyOf, hgo, hsize]) hgo
      rw [hframe, faultText, hsize] at hfailed
      exact hfailed
    · rename_i size hsize
      dsimp only
      split
      · rename_i characters fault hdrawing
        have hframe : frameOf state turn =
            some (Stroke.cut characters (frameFor state size turn.clock)) := by
          simp [frameOf, hgo, hsize, hdrawing]
        have hfailed : Took outside state turn ⟨(prepareFrame size turn.clock state).1, _, _⟩ :=
          .failed _ fault (by simp [faultOf, hgo, hsize, hdrawing])
            (by simp [keyOf, hgo, hsize, hdrawing]) hgo
        rw [hframe, faultText, hsize] at hfailed
        exact hfailed
      · rename_i hdrawing
        exact took_afterFrame outside ⟨hgo, hsize, hdrawing⟩

section Took

variable {outside state turn} {turned : Turned Memory} (h : Took outside state turn turned)

include h

/-- A turn draws its frame once, and nothing else of it is on the screen. -/
theorem Took.screen : screenOf turned.deeds = (frameOf state turn).toList.map Deed.drew := by
  cases h with
  | stopped hstopped => simp [screenOf, frameOf, hstopped, Deed.isOnScreen]
  | failed next fault hfault hkey hgo => cases frameOf state turn <;> rfl
  | quit size frame key hsize hframe hkey hfault hgo hquits => rw [hframe]; rfl
  | unfinished next frame hframe hkey hfault hgo => rw [hframe]; rfl
  | wentOn size frame more hsize hframe hfault hgo hstay hmore =>
    have hkeys : screenOf ((keyOf state turn).toList.map Deed.handled) = [] := by
      cases keyOf state turn <;> rfl
    have hrest := screenOf_append ((keyOf state turn).toList.map Deed.handled) more
    rw [hkeys, screenOf_silent hmore, List.append_nil] at hrest
    rw [hframe, screenOf, List.filter_cons_of_pos rfl, ← screenOf, hrest]
    rfl

/-- A turn handles the key that it reads once. -/
theorem Took.keys : keysOf turned.deeds = (keyOf state turn).toList := by
  cases h with
  | stopped hstopped => simp [keysOf, keyOf, hstopped, Deed.key?]
  | failed next fault hfault hkey hgo =>
    rw [hkey]
    cases frameOf state turn <;> rfl
  | quit size frame key hsize hframe hkey hfault hgo hquits => rw [hkey]; rfl
  | unfinished next frame hframe hkey hfault hgo => rw [hkey]; rfl
  | wentOn size frame more hsize hframe hfault hgo hstay hmore =>
    have hkeys : keysOf ((keyOf state turn).toList.map Deed.handled) =
        (keyOf state turn).toList := by
      cases keyOf state turn <;> rfl
    have hrest := keysOf_append ((keyOf state turn).toList.map Deed.handled) more
    rw [hkeys, keysOf_silent hmore, List.append_nil] at hrest
    rw [keysOf, List.filterMap_cons_none rfl, ← keysOf, hrest]

theorem Took.ending_stopped : turned.ending = some .stopped ↔ turn.stopped = true := by
  cases h with
  | stopped hstopped => simp [hstopped]
  | failed | quit | unfinished | wentOn => simp_all

theorem Took.ending_quit : turned.ending = some .quit ↔ Quits state turn := by
  cases h with
  | stopped hstopped => simp [Quits, keyOf, hstopped]
  | quit size frame key hsize hframe hkey hfault hgo hquits => simp [Quits, hkey, hquits]
  | failed next fault hfault hkey hgo => simp [Quits, hkey]
  | unfinished next frame hframe hkey hfault hgo => simp [Quits, hkey]
  | wentOn size frame more hsize hframe hfault hgo hstay hmore => simp [hstay]

theorem Took.ending_failed :
    (∃ message, turned.ending = some (.failed message)) ↔ ∃ fault, faultOf state turn = some fault := by
  cases h with
  | stopped hstopped => simp [faultOf, hstopped]
  | failed | quit | unfinished | wentOn => simp_all

/-- A turn writes nothing to the error output. -/
theorem Took.told : toldOf turned.deeds = [] := by
  cases h with
  | stopped | quit | unfinished => rfl
  | failed => cases frameOf state turn <;> rfl
  | wentOn size frame more hsize hframe hfault hgo hstay hmore =>
    rw [toldOf_cons, toldOf_append, toldOf_silent hmore]
    cases keyOf state turn <;> rfl

theorem Took.of_stopped (hstopped : turn.stopped = true) :
    turned = ⟨state, [.reported stopReport], some .stopped⟩ := by
  cases h with
  | stopped => rfl
  | failed | quit | unfinished | wentOn => simp_all

/-- A turn whose key quits leaves what the key does to the session that it drew. -/
theorem Took.of_quits {key : Key} (hkey : keyOf state turn = some key)
    (hquits : state.session.QuitsBy key) :
    ∃ size frame, turn.size = .ok size ∧
      turned = ⟨(keyed outside state turn size).1, [.drew frame, .handled key], some .quit⟩ := by
  have hending := h.ending_quit.mpr ⟨key, hkey, hquits⟩
  cases h with
  | quit size frame other hsize hframe hother hfault hgo hby =>
    obtain rfl := Option.some.inj (hother.symm.trans hkey)
    exact ⟨size, frame, hsize, rfl⟩
  | stopped | failed | unfinished | wentOn => simp at hending

theorem Took.of_going (hending : turned.ending = none) :
    ∃ size, turn.size = .ok size ∧ turned.state = stateAfter outside state turn size := by
  cases h with
  | wentOn size frame more hsize => exact ⟨size, hsize, rfl⟩
  | stopped | failed | quit | unfinished => simp at hending

/-- A turn that fails does no more than draw what it draws. -/
theorem Took.of_fault {fault : Fault} (hfault : faultOf state turn = some fault) :
    turned.ending = some (.failed (faultText turn fault)) ∧
      turned.deeds = (frameOf state turn).toList.map Deed.drew := by
  cases h with
  | stopped hstopped => simp [faultOf, hstopped] at hfault
  | failed next other hother =>
    obtain rfl := Option.some.inj (hother.symm.trans hfault)
    exact ⟨rfl, rfl⟩
  | quit | unfinished | wentOn => simp_all

end Took

end Turns

end Run

end ProcessMonitor
