-- The laws of requests. Only three kinds of keys make one, each at most one at a
-- time, and a process is ended only after it was selected when the question was
-- opened, whatever passes did to the list behind the question.
import ProcessMonitor.Proofs.SessionRuns

namespace ProcessMonitor

/-- The process that a request is about. -/
def Request.pid : Request → Int
  | .terminate pid => pid
  | .renice pid _ => pid

/-- True for a request to end a process. -/
def Request.isTerminate : Request → Bool
  | .terminate _ => true
  | .renice _ _ => false

namespace Session

/-! ## The requests of one step -/

/-- What makes a request: yes to an open question, or a priority key over the list
while a process is selected. -/
def Asks (s : Session) (next : Happening) (request : Request) : Prop :=
  ∃ control key, next = .key control key ∧
    ((∃ pid command, s.mode = .confirmKill pid command ∧ key.IsYes ∧ request = .terminate pid) ∨
      ∃ process, s.mode = .normal ∧ s.table.selected? = some process ∧
        (key.Raises ∧ request = .renice process.pid 1 ∨
          key.Lowers ∧ request = .renice process.pid (-1)))

theorem requests_confirmKill (s : Session) (control : Controller) (pid : Int) (command : String)
    (hmode : s.mode = .confirmKill pid command) :
    (s.confirmKill control).requests = [.terminate pid] := by
  unfold confirmKill
  rw [hmode]
  dsimp only
  split <;> rfl

theorem requests_renice (s : Session) (control : Controller) (delta : Int) :
    (s.renice control delta).requests =
      (s.table.selected?.map fun process => Request.renice process.pid delta).toList := by
  unfold renice
  cases s.table.selected? with
  | none => rfl
  | some process =>
    dsimp only
    split <;> rfl

theorem Pressed.length_requests {s : Session} {control : Controller} {key : Key}
    {result : Effect × Action} (h : Pressed s control key result) :
    result.1.requests.length ≤ 1 := by
  cases h with
  | raise hmode hkey =>
    rw [raisePriority, requests_renice]
    exact Option.length_toList_le
  | lower hmode hkey =>
    rw [lowerPriority, requests_renice]
    exact Option.length_toList_le
  | confirm pid command hmode hkey =>
    rw [requests_confirmKill s control pid command hmode]
    exact Nat.le_refl 1
  | _ => exact Nat.zero_le 1

theorem Pressed.asks {s : Session} {control : Controller} {key : Key} {result : Effect × Action}
    (h : Pressed s control key result) (request : Request) (hmem : request ∈ result.1.requests) :
    s.Asks (.key control key) request := by
  cases h with
  | raise hmode hkey =>
    rw [raisePriority, requests_renice, Option.mem_toList, Option.map_eq_some_iff] at hmem
    obtain ⟨process, hs, rfl⟩ := hmem
    exact ⟨control, key, rfl, Or.inr ⟨process, hmode, hs, Or.inl ⟨hkey, rfl⟩⟩⟩
  | lower hmode hkey =>
    rw [lowerPriority, requests_renice, Option.mem_toList, Option.map_eq_some_iff] at hmem
    obtain ⟨process, hs, rfl⟩ := hmem
    exact ⟨control, key, rfl, Or.inr ⟨process, hmode, hs, Or.inr ⟨hkey, rfl⟩⟩⟩
  | confirm pid command hmode hkey =>
    rw [requests_confirmKill s control pid command hmode, List.mem_singleton] at hmem
    exact ⟨control, key, rfl, Or.inl ⟨pid, command, hmode, hkey, hmem⟩⟩
  | _ => exact absurd hmem List.not_mem_nil

theorem length_requests_after (s : Session) (next : Happening) :
    (s.after next).requests.length ≤ 1 := by
  cases next with
  | key control key => exact (pressed s control key).length_requests
  | pass reading => exact Nat.zero_le 1
  | resize rows => exact Nat.zero_le 1

/-- A step makes exactly the request that it asks for. -/
theorem mem_requests_after (s : Session) (next : Happening) (request : Request) :
    request ∈ (s.after next).requests ↔ s.Asks next request := by
  constructor
  · intro h
    cases next with
    | key control key => exact (pressed s control key).asks request h
    | pass reading => exact absurd h List.not_mem_nil
    | resize rows => exact absurd h List.not_mem_nil
  · rintro ⟨control, key, rfl, ⟨pid, command, hmode, hkey, rfl⟩ | ⟨process, hmode, hs, h⟩⟩
    · have hmade := requests_confirmKill { s with status := none } control pid command hmode
      rw [after, press_of_isYes s control key pid command hmode hkey, hmade]
      exact List.mem_singleton_self _
    · rcases h with ⟨hkey, rfl⟩ | ⟨hkey, rfl⟩
      · rw [after, press_of_raises s control key hmode hkey, raisePriority, requests_renice]
        simp [hs, reniceStep]
      · rw [after, press_of_lowers s control key hmode hkey, lowerPriority, requests_renice]
        simp [hs, reniceStep]

/-! ## The question whether to end a process -/

/-- Opens the question about the process that is selected, with this pid and this
command. -/
def Opens (s : Session) (next : Happening) (pid : Int) (command : String) : Prop :=
  ∃ control key process, next = .key control key ∧ s.mode = .normal ∧ key.Kills ∧
    s.table.selected? = some process ∧ process.pid = pid ∧ process.command = command

/-- None of the happenings opens a question. -/
def OpensNone : Session → List Happening → Prop
  | _, [] => True
  | s, next :: rest =>
    (∀ pid command, ¬ s.Opens next pid command) ∧ OpensNone (s.after next).session rest

theorem Pressed.mode {s : Session} {control : Controller} {key : Key} {result : Effect × Action}
    (h : Pressed s control key result) {pid : Int} {command : String}
    (hm : result.1.session.mode = .confirmKill pid command) :
    s.mode = .confirmKill pid command ∨ s.Opens (.key control key) pid command := by
  cases h with
  | ask hmode hkey =>
    cases hs : s.table.selected? with
    | none =>
      simp [requestKill, hs, step] at hm
      exact Or.inl hm
    | some process =>
      simp only [requestKill, hs, step, Mode.confirmKill.injEq] at hm
      exact Or.inr ⟨control, key, process, rfl, hmode, hkey, hs, hm⟩
  | raise hmode hkey =>
    obtain ⟨status, hs⟩ := s.renice_session control reniceStep
    rw [raisePriority, hs] at hm
    exact Or.inl hm
  | lower hmode hkey =>
    obtain ⟨status, hs⟩ := s.renice_session control (-reniceStep)
    rw [lowerPriority, hs] at hm
    exact Or.inl hm
  | confirm pid' command' hmode hkey =>
    obtain ⟨status, hs⟩ := s.confirmKill_session control
    rw [hs] at hm
    cases hm
  | quit h => exact Or.inl hm
  | onTable hmode op hop => exact Or.inl hm
  | slower hmode hkey => exact Or.inl hm
  | faster hmode hkey => exact Or.inl hm
  | pass hmode => exact Or.inl hm
  | ignored hmode => exact Or.inl hm
  | _ => cases hm

/-- A question that is open after a step was open before it, or the step opened
it. -/
theorem mode_after (s : Session) (next : Happening) (pid : Int) (command : String)
    (h : (s.after next).session.mode = .confirmKill pid command) :
    s.mode = .confirmKill pid command ∨ s.Opens next pid command := by
  cases next with
  | key control key => exact (pressed s control key).mode h
  | pass reading => exact Or.inl h
  | resize rows => exact Or.inl h

/-- The step that asks to end a process closes the question. -/
theorem mode_after_terminate (s : Session) (next : Happening) (pid : Int)
    (h : s.Asks next (.terminate pid)) : (s.after next).session.mode = .normal := by
  obtain ⟨control, key, rfl, ⟨pid', command, hmode, hkey, _⟩ | ⟨process, _, _, h⟩⟩ := h
  · rw [after, press_of_isYes s control key pid' command hmode hkey]
    obtain ⟨status, hs⟩ := { s with status := none }.confirmKill_session control
    rw [hs]
  · rcases h with ⟨_, h⟩ | ⟨_, h⟩ <;> cases h

/-- While no question is open and none is opened, nothing is asked to end. -/
theorem countP_terminate_eq_zero (s : Session) (during : List Happening) (h : s.OpensNone during)
    (hclosed : ∀ pid command, s.mode ≠ .confirmKill pid command) :
    (s.run during).requests.countP Request.isTerminate = 0 := by
  induction during generalizing s with
  | nil => rfl
  | cons next rest ih =>
    obtain ⟨hnext, hrest⟩ := h
    have hafter : ∀ pid command, (s.after next).session.mode ≠ .confirmKill pid command := by
      intro pid command hm
      rcases mode_after s next pid command hm with hm | hm
      · exact hclosed pid command hm
      · exact hnext pid command hm
    have hfirst : (s.after next).requests.countP Request.isTerminate = 0 := by
      rw [List.countP_eq_zero]
      intro request hmem
      rw [mem_requests_after] at hmem
      obtain ⟨control, key, rfl, ⟨pid, command, hmode, _, _⟩ | ⟨process, _, _, h⟩⟩ := hmem
      · exact absurd hmode (hclosed pid command)
      · rcases h with ⟨_, rfl⟩ | ⟨_, rfl⟩ <;> simp [Request.isTerminate]
    rw [run, List.countP_append, hfirst, ih _ hrest hafter]

/-- A question that stays open ends one process at most: the request closes it. -/
theorem countP_terminate_le_one (s : Session) (during : List Happening) (h : s.OpensNone during) :
    (s.run during).requests.countP Request.isTerminate ≤ 1 := by
  induction during generalizing s with
  | nil => exact Nat.zero_le 1
  | cons next rest ih =>
    obtain ⟨_, hrest⟩ := h
    rw [run, List.countP_append]
    by_cases hend : ∃ pid, s.Asks next (.terminate pid)
    · obtain ⟨pid, hask⟩ := hend
      have hmode := mode_after_terminate s next pid hask
      rw [countP_terminate_eq_zero _ rest hrest (by simp [hmode])]
      exact Nat.le_trans List.countP_le_length (length_requests_after s next)
    · have hfirst : (s.after next).requests.countP Request.isTerminate = 0 := by
        rw [List.countP_eq_zero]
        intro request hmem
        rw [mem_requests_after] at hmem
        cases request with
        | terminate pid => exact absurd ⟨pid, hmem⟩ hend
        | renice pid delta => simp [Request.isTerminate]
      rw [hfirst, Nat.zero_add]
      exact ih _ hrest

/-- An open question was opened by a kill key for the process selected then, and
has stayed open since. -/
theorem question_origin (s : Session) (hs : ∀ pid command, s.mode ≠ .confirmKill pid command)
    (past : List Happening) (pid : Int) (command : String)
    (h : (s.run past).session.mode = .confirmKill pid command) :
    ∃ before opening after, past = before ++ opening :: after ∧
      (s.run before).session.Opens opening pid command ∧
      ∀ since, since <+: after →
        (s.run (before ++ opening :: since)).session.mode = .confirmKill pid command := by
  induction past using List.reverseRecOn with
  | nil => exact absurd h (hs pid command)
  | append_singleton past next ih =>
    have hnow := h
    rw [session_run_snoc] at h
    rcases mode_after _ next pid command h with hm | hopen
    · obtain ⟨before, opening, later, rfl, hopens, hsince⟩ := ih hm
      refine ⟨before, opening, later ++ [next], by simp, hopens, ?_⟩
      intro since hprefix
      rcases List.prefix_concat_iff.mp hprefix with rfl | hprefix
      · simpa using hnow
      · exact hsince since hprefix
    · refine ⟨past, next, [], rfl, hopen, ?_⟩
      intro since hprefix
      rw [List.prefix_nil.mp hprefix]
      exact hnow

/-! ## The laws -/

/-- Every request names a pid that a pass before it listed. -/
theorem requests_listed (column : SortColumn) (descending : Bool) (filter : String)
    (interval : Nat) (past : List Happening) (request : Request)
    (h : request ∈ ((start column descending filter interval).run past).requests) :
    Listed past request.pid := by
  induction past using List.reverseRecOn with
  | nil => exact absurd h List.not_mem_nil
  | append_singleton past next ih =>
    rw [requests_run_snoc, List.mem_append, mem_requests_after] at h
    apply listed_append
    rcases h with h | ⟨control, key, rfl, ⟨pid, command, hmode, _, rfl⟩ | ⟨process, _, hs, h⟩⟩
    · exact ih h
    · obtain ⟨before, opening, later, rfl, hopens, _⟩ :=
        question_origin (start column descending filter interval) (by simp [start]) past pid command
          hmode
      obtain ⟨_, _, process, _, _, _, hs, rfl, _⟩ := hopens
      apply listed_append
      exact samples_listed column descending filter interval before process
        (selected?_mem_samples column descending filter interval before process hs)
    · have hlisted := samples_listed column descending filter interval past process
        (selected?_mem_samples column descending filter interval past process hs)
      rcases h with ⟨_, rfl⟩ | ⟨_, rfl⟩ <;> exact hlisted

/-- The requests of every run, whatever their answers are. A step makes the one
that it asks for, or none. The pid and the command of an open question are those
of the process that was selected when a kill key opened it, and it has stayed
open since. From one opening to the next one process at most is asked to end.
Every pid that a request names is positive and was listed by a pass before. -/
theorem requests_reach_only_the_processes_asked_about (column : SortColumn) (descending : Bool)
    (filter : String) (interval : Nat) :
    let begun := start column descending filter interval
    (begun.run []).requests = [] ∧
      (∀ past next, ∃ made,
        (begun.run (past ++ [next])).requests = (begun.run past).requests ++ made ∧
        made.length ≤ 1 ∧
        ∀ request, request ∈ made ↔ (begun.run past).session.Asks next request) ∧
      (∀ past pid command, (begun.run past).session.mode = .confirmKill pid command →
        ∃ before opening after, past = before ++ opening :: after ∧
          (begun.run before).session.Opens opening pid command ∧
          ∀ since, since <+: after →
            (begun.run (before ++ opening :: since)).session.mode = .confirmKill pid command) ∧
      (∀ past during, (begun.run past).session.OpensNone during →
        ((begun.run past).session.run during).requests.countP Request.isTerminate ≤ 1) ∧
      ∀ past request, request ∈ (begun.run past).requests → Listed past request.pid := by
  intro begun
  refine ⟨rfl, ?_, ?_, ?_, requests_listed column descending filter interval⟩
  · intro past next
    exact ⟨_, requests_run_snoc begun past next, length_requests_after _ next,
      mem_requests_after _ next⟩
  · exact question_origin begun (by simp [begun, start])
  · intro past during h
    exact countP_terminate_le_one _ during h

end Session

end ProcessMonitor
