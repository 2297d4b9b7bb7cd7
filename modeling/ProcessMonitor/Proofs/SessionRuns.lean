-- Sessions under any mixture of keys, passes and changes of the window. `Pressed`
-- says once what a key does in each mode; the laws of sessions follow from it. A
-- session changes its table only by the operations of the list, so every law of
-- the list holds in every session.
import Mathlib.Data.List.Induction
import ProcessMonitor.Proofs.TableWindow
import ProcessMonitor.Session.Script

namespace ProcessMonitor

open Table (Operation)

/-! ## Keys by what they ask for -/

namespace Key

/-- Yes to the question whether to end a process. -/
def IsYes (key : Key) : Prop := key.code = .char 'y' ∨ key.code = .char 'Y'

/-- Opens that question for the selected process. -/
def Kills (key : Key) : Prop :=
  key.code = .char 'x' ∨ key.code = .char 'X' ∨ key.code = .delete

/-- Raises the priority of the selected process. -/
def Raises (key : Key) : Prop := key.code = .char '+' ∨ key.code = .char '='

/-- Lowers the priority of the selected process. -/
def Lowers (key : Key) : Prop := key.code = .char '-' ∨ key.code = .char '_'

end Key

/-- The operations that keys ask for. The samples and the height of the window are
not theirs to change. -/
def Table.Operation.FromKey : Operation → Prop
  | .update _ | .setRows _ => False
  | _ => True

theorem Table.samples_apply (table : Table) {op : Operation} (h : op.FromKey) :
    (table.apply op).samples = table.samples := by
  cases op with
  | update samples => exact absurd h id
  | setRows rows => exact absurd h id
  | move delta => exact settle_samples _
  | page pages => exact settle_samples _
  | toStart => exact settle_samples _
  | toEnd => exact settle_samples _
  | cycleColumn => exact settle_samples _
  | reverse => exact settle_samples _
  | setFilter filter => exact settle_samples _
  | clearFilter => exact settle_samples _

namespace Session

/-! ## One key -/

/-- What a key does to a session whose message is gone, with the mode and the keys
that make it do so. -/
inductive Pressed (s : Session) (control : Controller) (key : Key) : Effect × Action → Prop
  /-- The interrupt key quits everywhere, the quit keys where no text is typed. -/
  | quit (h : key.isInterrupt = true ∨ key.isQuit = true ∧ ∀ buffer, s.mode ≠ .filterEntry buffer) :
    Pressed s control key (s.step .quit)
  | onTable (hmode : s.mode = .normal) (op : Operation) (hop : op.FromKey) :
    Pressed s control key (s.onTable (·.apply op))
  | beginFilter (hmode : s.mode = .normal) :
    Pressed s control key { s with mode := .filterEntry s.table.filter }.step
  | ask (hmode : s.mode = .normal) (hkey : key.Kills) : Pressed s control key s.requestKill.step
  | raise (hmode : s.mode = .normal) (hkey : key.Raises) :
    Pressed s control key (s.raisePriority control, .refresh)
  | lower (hmode : s.mode = .normal) (hkey : key.Lowers) :
    Pressed s control key (s.lowerPriority control, .refresh)
  | openHelp (hmode : s.mode = .normal) : Pressed s control key { s with mode := .help }.step
  | slower (hmode : s.mode = .normal) (hkey : key.code = .char '[') :
    Pressed s control key (s.slower, .stay)
  | faster (hmode : s.mode = .normal) (hkey : key.code = .char ']') :
    Pressed s control key (s.faster, .stay)
  | pass (hmode : s.mode = .normal) : Pressed s control key (s.step .refresh)
  | ignored (hmode : s.mode = .normal) : Pressed s control key s.step
  | dropFilter (buffer : String) (hmode : s.mode = .filterEntry buffer)
      (hkey : key.code = .escape) : Pressed s control key { s with mode := .normal }.step
  | takeFilter (buffer : String) (hmode : s.mode = .filterEntry buffer) (hkey : key.code = .enter) :
    Pressed s control key { s with mode := .normal, table := s.table.setFilter buffer }.step
  | typed (buffer edited : String) (hmode : s.mode = .filterEntry buffer) :
    Pressed s control key { s with mode := .filterEntry edited }.step
  | confirm (pid : Int) (command : String) (hmode : s.mode = .confirmKill pid command)
      (hkey : key.IsYes) : Pressed s control key (s.confirmKill control, .refresh)
  | cancel (pid : Int) (command : String) (hmode : s.mode = .confirmKill pid command)
      (hkey : ¬ key.IsYes) : Pressed s control key s.cancelKill.step
  | closeHelp (hmode : s.mode = .help) : Pressed s control key { s with mode := .normal }.step

theorem pressed_normal (s : Session) (control : Controller) (key : Key) (hmode : s.mode = .normal) :
    Pressed s control key (s.pressNormal control key) := by
  unfold pressNormal
  split <;> rename_i hcode
  case h_1 | h_2 => exact .quit (Or.inr ⟨by simp [Key.isQuit, hcode], by simp [hmode]⟩)
  case h_3 | h_4 => exact .onTable hmode (.move (-1)) trivial
  case h_5 | h_6 => exact .onTable hmode (.move 1) trivial
  case h_7 => exact .onTable hmode (.page (-1)) trivial
  case h_8 => exact .onTable hmode (.page 1) trivial
  case h_9 => exact .onTable hmode .toStart trivial
  case h_10 => exact .onTable hmode .toEnd trivial
  case h_11 | h_12 | h_13 => exact .onTable hmode .cycleColumn trivial
  case h_14 | h_15 => exact .onTable hmode .reverse trivial
  case h_16 | h_17 | h_18 => exact .beginFilter hmode
  case h_19 | h_20 | h_21 => exact .onTable hmode .clearFilter trivial
  case h_22 | h_23 | h_24 => exact .ask hmode (by simp [Key.Kills, hcode])
  case h_25 | h_26 => exact .raise hmode (by simp [Key.Raises, hcode])
  case h_27 | h_28 => exact .lower hmode (by simp [Key.Lowers, hcode])
  case h_29 | h_30 | h_31 | h_32 => exact .openHelp hmode
  case h_33 => exact .slower hmode hcode
  case h_34 => exact .faster hmode hcode
  case h_35 => exact .pass hmode
  case h_36 => exact .ignored hmode

theorem pressed_filter (s : Session) (control : Controller) (key : Key) (buffer : String)
    (hmode : s.mode = .filterEntry buffer) : Pressed s control key (s.pressFilter buffer key) := by
  have hsame : s.step = { s with mode := .filterEntry buffer }.step := by rw [← hmode]
  unfold pressFilter
  split
  · exact .dropFilter buffer hmode ‹_›
  · exact .takeFilter buffer hmode ‹_›
  · exact .typed buffer _ hmode
  · split
    · rw [hsame]; exact .typed buffer _ hmode
    · exact .typed buffer _ hmode
  · rw [hsame]; exact .typed buffer _ hmode

theorem pressed_confirm (s : Session) (control : Controller) (key : Key) (pid : Int)
    (command : String) (hmode : s.mode = .confirmKill pid command) :
    Pressed s control key (s.pressConfirm control key) := by
  unfold pressConfirm
  split
  · rename_i hkey
    exact .confirm pid command hmode (by simpa [Key.IsYes] using hkey)
  · rename_i hkey
    split
    · exact .quit (Or.inr ⟨‹_›, by simp [hmode]⟩)
    · exact .cancel pid command hmode (by simpa [Key.IsYes] using hkey)

theorem pressed_help (s : Session) (control : Controller) (key : Key) (hmode : s.mode = .help) :
    Pressed s control key (s.pressHelp key) := by
  unfold pressHelp
  split
  · exact .quit (Or.inr ⟨‹_›, by simp [hmode]⟩)
  · exact .closeHelp hmode

/-- Every key does one of the things listed above. -/
theorem pressed (s : Session) (control : Controller) (key : Key) :
    Pressed { s with status := none } control key (s.press control key) := by
  unfold press
  dsimp only
  split
  · exact .quit (Or.inl ‹_›)
  · split
    · exact pressed_normal _ control key ‹_›
    · exact pressed_filter _ control key _ ‹_›
    · exact pressed_confirm _ control key _ _ ‹_›
    · exact pressed_help _ control key ‹_›

/-! ## The keys of requests -/

theorem press_normal (s : Session) (control : Controller) (key : Key) (hmode : s.mode = .normal)
    (h : key.code ≠ .char 'c') :
    s.press control key = { s with status := none }.pressNormal control key := by
  simp [press, Key.isInterrupt, h, hmode]

theorem press_of_kills (s : Session) (control : Controller) (key : Key) (hmode : s.mode = .normal)
    (h : key.Kills) : s.press control key = { s with status := none }.requestKill.step := by
  rcases h with h | h | h <;> rw [press_normal s control key hmode (by simp [h])] <;>
    simp [pressNormal, h]

theorem press_of_raises (s : Session) (control : Controller) (key : Key) (hmode : s.mode = .normal)
    (h : key.Raises) :
    s.press control key = ({ s with status := none }.raisePriority control, .refresh) := by
  rcases h with h | h <;> rw [press_normal s control key hmode (by simp [h])] <;>
    simp [pressNormal, h]

theorem press_of_lowers (s : Session) (control : Controller) (key : Key) (hmode : s.mode = .normal)
    (h : key.Lowers) :
    s.press control key = ({ s with status := none }.lowerPriority control, .refresh) := by
  rcases h with h | h <;> rw [press_normal s control key hmode (by simp [h])] <;>
    simp [pressNormal, h]

theorem press_of_isYes (s : Session) (control : Controller) (key : Key) (pid : Int)
    (command : String) (hmode : s.mode = .confirmKill pid command) (h : key.IsYes) :
    s.press control key = ({ s with status := none }.confirmKill control, .refresh) := by
  rcases h with h | h <;> simp [press, Key.isInterrupt, hmode, pressConfirm, h]

/-! ## What a key leaves alone -/

theorem requestKill_session (s : Session) : ∃ mode, s.requestKill = { s with mode } := by
  unfold requestKill
  split
  · exact ⟨s.mode, rfl⟩
  · exact ⟨_, rfl⟩

theorem confirmKill_session (s : Session) (control : Controller) :
    ∃ status, (s.confirmKill control).session = { s with mode := .normal, status } := by
  unfold confirmKill
  split
  · dsimp only
    split <;> exact ⟨_, rfl⟩
  · exact ⟨s.status, rfl⟩

theorem renice_session (s : Session) (control : Controller) (delta : Int) :
    ∃ status, (s.renice control delta).session = { s with status } := by
  unfold renice
  split
  · exact ⟨s.status, rfl⟩
  · dsimp only
    split <;> exact ⟨_, rfl⟩

/-- A key changes the table, the mode, the message and the interval, and nothing
else; and the table only by an operation of its own. -/
theorem Pressed.session {s : Session} {control : Controller} {key : Key} {result : Effect × Action}
    (h : Pressed s control key result) :
    ∃ table mode status interval,
      result.1.session = { s with table, mode, status, interval } ∧
      (table = s.table ∨ ∃ op : Operation, op.FromKey ∧ table = s.table.apply op) := by
  cases h with
  | onTable hmode op hop => exact ⟨_, _, _, _, rfl, Or.inr ⟨op, hop, rfl⟩⟩
  | takeFilter buffer hmode hkey =>
    exact ⟨_, _, _, _, rfl, Or.inr ⟨.setFilter buffer, trivial, rfl⟩⟩
  | ask hmode hkey =>
    obtain ⟨mode, hs⟩ := s.requestKill_session
    rw [hs]
    exact ⟨_, _, _, _, rfl, Or.inl rfl⟩
  | raise hmode hkey =>
    obtain ⟨status, hs⟩ := s.renice_session control reniceStep
    exact ⟨_, _, _, _, hs, Or.inl rfl⟩
  | lower hmode hkey =>
    obtain ⟨status, hs⟩ := s.renice_session control (-reniceStep)
    exact ⟨_, _, _, _, hs, Or.inl rfl⟩
  | confirm pid command hmode hkey =>
    obtain ⟨status, hs⟩ := s.confirmKill_session control
    exact ⟨_, _, _, _, hs, Or.inl rfl⟩
  | _ => exact ⟨_, _, _, _, rfl, Or.inl rfl⟩

/-! ## Runs -/

theorem session_run_append (s : Session) (first more : List Happening) :
    (s.run (first ++ more)).session = ((s.run first).session.run more).session := by
  induction first generalizing s with
  | nil => rfl
  | cons happening rest ih => exact ih (s.after happening).session

theorem requests_run_append (s : Session) (first more : List Happening) :
    (s.run (first ++ more)).requests =
      (s.run first).requests ++ ((s.run first).session.run more).requests := by
  induction first generalizing s with
  | nil => rfl
  | cons happening rest ih => simp [run, ih]

theorem session_run_snoc (s : Session) (past : List Happening) (next : Happening) :
    (s.run (past ++ [next])).session = ((s.run past).session.after next).session :=
  session_run_append s past [next]

theorem requests_run_snoc (s : Session) (past : List Happening) (next : Happening) :
    (s.run (past ++ [next])).requests =
      (s.run past).requests ++ ((s.run past).session.after next).requests := by
  rw [requests_run_append]
  simp [run]

/-! ## The table of a session -/

theorem table_after (s : Session) (next : Happening) :
    ∃ operations, (s.after next).session.table = s.table.run operations := by
  cases next with
  | key control key =>
    obtain ⟨table, mode, status, interval, hs, ht⟩ := (pressed s control key).session
    have htable : (s.after (.key control key)).session.table = table := by rw [after, hs]
    rw [htable]
    rcases ht with ht | ⟨op, _, ht⟩
    · exact ⟨[], ht⟩
    · exact ⟨[op], ht⟩
  | pass reading => exact ⟨[.update (Pass.take s.baseline reading).1.samples], rfl⟩
  | resize rows => exact ⟨[.setRows rows], rfl⟩

theorem table_run (s : Session) (past : List Happening) :
    ∃ operations, (s.run past).session.table = s.table.run operations := by
  induction past using List.reverseRecOn with
  | nil => exact ⟨[], rfl⟩
  | append_singleton past next ih =>
    obtain ⟨before, hbefore⟩ := ih
    obtain ⟨more, hmore⟩ := table_after (s.run past).session next
    refine ⟨before ++ more, ?_⟩
    rw [session_run_snoc, hmore, hbefore, Table.run, Table.run, Table.run, List.foldl_append]

section Started

variable (column : SortColumn) (descending : Bool) (filter : String) (interval : Nat)

/-- The selected process is one of the samples. -/
theorem selected?_mem_samples (past : List Happening) (process : ProcessSample)
    (h : ((start column descending filter interval).run past).session.table.selected? =
      some process) :
    process ∈ ((start column descending filter interval).run past).session.table.samples := by
  obtain ⟨operations, ht⟩ := table_run (start column descending filter interval) past
  have hview := Table.canonical_run column descending filter operations
  rw [ht] at h ⊢
  obtain ⟨row, hrow, rfl⟩ := Option.map_eq_some_iff.mp h
  exact List.mem_of_getElem? ((hview.mem_iff row).mp (List.mem_of_getElem? hrow)).1

/-! ## Where samples come from -/

theorem pids_measureAll (memoryTotal elapsed : Nat) (base : Baseline)
    (records : List ProcessRecord) :
    (Pass.measureAll memoryTotal elapsed base records).1.map (·.pid) = records.map (·.pid) := by
  induction records generalizing base with
  | nil => rfl
  | cons record rest ih =>
    simp only [Pass.measureAll, List.map_cons, ih]
    rfl

/-- A pass lists the records whose pid is positive, in order. -/
theorem pids_take (base : Baseline) (reading : Reading) :
    (Pass.take base reading).1.samples.map (·.pid) =
      (reading.processes.filter fun record => record.pid > 0).map (·.pid) := by
  unfold Pass.take
  dsimp only
  split
  · exact pids_measureAll _ _ _ _
  · simp [Pass.unmeasured, Pass.sampleOf]

/-- A pid that is positive and that some pass listed. -/
def Listed (past : List Happening) (pid : Int) : Prop :=
  0 < pid ∧ ∃ reading, .pass reading ∈ past ∧ ∃ record ∈ reading.processes, record.pid = pid

theorem listed_append {past : List Happening} {pid : Int} (more : List Happening)
    (h : Listed past pid) : Listed (past ++ more) pid := by
  obtain ⟨hpos, reading, hmem, hrecord⟩ := h
  exact ⟨hpos, reading, List.mem_append_left more hmem, hrecord⟩

theorem listed_of_take (past : List Happening) (base : Baseline) (reading : Reading)
    (hmem : .pass reading ∈ past) (sample : ProcessSample)
    (h : sample ∈ (Pass.take base reading).1.samples) : Listed past sample.pid := by
  have hpid : sample.pid ∈ (Pass.take base reading).1.samples.map (·.pid) :=
    List.mem_map_of_mem h
  rw [pids_take] at hpid
  obtain ⟨record, hrecord, heq⟩ := List.mem_map.mp hpid
  obtain ⟨hin, hpos⟩ := List.mem_filter.mp hrecord
  rw [← heq]
  exact ⟨of_decide_eq_true hpos, reading, hmem, record, hin, rfl⟩

theorem samples_listed (past : List Happening) :
    ∀ sample ∈ ((start column descending filter interval).run past).session.table.samples,
      Listed past sample.pid := by
  induction past using List.reverseRecOn with
  | nil =>
    intro sample hsample
    simp [run, start, Table.empty] at hsample
  | append_singleton past next ih =>
    intro sample hsample
    rw [session_run_snoc] at hsample
    cases next with
    | key control key =>
      obtain ⟨table, mode, status, interval', hs, ht⟩ :=
        (pressed ((start column descending filter interval).run past).session control key).session
      rw [after, hs] at hsample
      apply listed_append
      apply ih
      rcases ht with rfl | ⟨op, hop, rfl⟩
      · exact hsample
      · rw [Table.samples_apply _ hop] at hsample
        exact hsample
    | pass reading =>
      simp only [after, refresh, Table.update, Table.rebuild, Table.settle_samples] at hsample
      exact listed_of_take _ _ reading (by simp) sample hsample
    | resize rows =>
      apply listed_append
      apply ih
      simpa [after, Table.setRows] using hsample

end Started

end Session

end ProcessMonitor
