-- The laws of what a frame shows after a pass. The metrics, the list and the
-- histories are replaced together, so they always tell of the same pass, the latest
-- one, and the histories hold the passes before it in step with each other.
import ProcessMonitor.Proofs.HistorySeries
import ProcessMonitor.Proofs.PassSeries
import ProcessMonitor.Proofs.SessionRuns

namespace ProcessMonitor

/-! ## Passes of a run -/

namespace Pass

theorem series_snoc (base : Baseline) (readings : List Reading) (reading : Reading) :
    series base (readings ++ [reading]) =
      series base readings ++ [(take (baselineAfter base readings) reading).1] := by
  induction readings generalizing base with
  | nil => rfl
  | cons first rest ih => simp [series, baselineAfter, ih]

/-- A pass counts the processes that it lists. -/
theorem tasks_take (base : Baseline) (reading : Reading) :
    (take base reading).1.metrics.tasks = (take base reading).1.samples.length := rfl

theorem tasks_of_mem_series {base : Baseline} {readings : List Reading} {pass : Pass}
    (h : pass ∈ series base readings) : pass.metrics.tasks = pass.samples.length := by
  obtain ⟨k, hk⟩ := List.mem_iff_getElem?.mp h
  rw [getElem?_series] at hk
  obtain ⟨reading, _, rfl⟩ := Option.map_eq_some_iff.mp hk
  exact tasks_take _ _

end Pass

def Happening.reading? : Happening → Option Reading
  | .pass reading => some reading
  | _ => none

namespace Session

/-- The readings of the passes among the happenings. -/
def readings (steps : List Happening) : List Reading := steps.filterMap Happening.reading?

/-- All passes of a run, oldest first. -/
def passes (steps : List Happening) : List Pass := Pass.series Baseline.empty (readings steps)

/-- The session tells of these readings: the baseline is theirs, the histories hold
the newest of their passes, and all else is of their last pass. -/
structure Tells (s : Session) (readings : List Reading) : Prop where
  baseline : s.baseline = Pass.baselineAfter Baseline.empty readings
  cpu : s.history.cpu.Keeps ((Pass.series Baseline.empty readings).map (·.metrics.cpu))
  memory : s.history.memory.Keeps ((Pass.series Baseline.empty readings).map (·.metrics.memory))
  cores : ∀ ring ∈ s.history.cores, ring.Good
  latest : ∀ pass, (Pass.series Baseline.empty readings).getLast? = some pass →
    s.metrics = pass.metrics ∧ s.table.samples = pass.samples ∧
      s.history.Ends pass.metrics.cores

theorem tells_start (column : SortColumn) (descending : Bool) (filter : String) (interval : Nat) :
    (start column descending filter interval).Tells [] where
  baseline := rfl
  cpu := Ring.keeps_empty
  memory := Ring.keeps_empty
  cores ring h := absurd h List.not_mem_nil
  latest pass h := absurd h (by simp [Pass.series])

theorem Tells.refresh {s : Session} {readings : List Reading} (h : s.Tells readings)
    (reading : Reading) : (s.refresh reading).session.Tells (readings ++ [reading]) where
  baseline := by
    rw [Pass.baselineAfter_snoc, ← h.baseline]
    rfl
  cpu := by
    rw [Pass.series_snoc, ← h.baseline, List.map_append]
    exact h.cpu.push _
  memory := by
    rw [Pass.series_snoc, ← h.baseline, List.map_append]
    exact h.memory.push _
  cores := History.good_cores_record s.history _ _ _ h.cores
  latest := by
    intro pass hpass
    rw [Pass.series_snoc, ← h.baseline, List.getLast?_concat] at hpass
    obtain rfl := Option.some.inj hpass
    exact ⟨rfl, Table.settle_samples _, History.ends_record s.history _ _ _ h.cores⟩

/-- What a frame shows of a pass, whichever rows of the list are in the window. -/
structure SameShown (s other : Session) : Prop where
  metrics : other.metrics = s.metrics
  history : other.history = s.history
  samples : other.table.samples = s.table.samples
  baseline : other.baseline = s.baseline

theorem sameShown_press (s : Session) (control : Controller) (key : Key) :
    s.SameShown (s.press control key).1.session := by
  obtain ⟨table, mode, status, interval, hs, ht⟩ := (pressed s control key).session
  rw [hs]
  refine ⟨rfl, rfl, ?_, rfl⟩
  rcases ht with rfl | ⟨op, hop, rfl⟩
  · rfl
  · exact Table.samples_apply _ hop

theorem Tells.of_sameShown {s other : Session} {readings : List Reading} (h : s.Tells readings)
    (hsame : s.SameShown other) : other.Tells readings where
  baseline := hsame.baseline.trans h.baseline
  cpu := hsame.history ▸ h.cpu
  memory := hsame.history ▸ h.memory
  cores := hsame.history ▸ h.cores
  latest pass hpass := by
    rw [hsame.metrics, hsame.samples, hsame.history]
    exact h.latest pass hpass

theorem tells_run (column : SortColumn) (descending : Bool) (filter : String) (interval : Nat)
    (steps : List Happening) :
    ((start column descending filter interval).run steps).session.Tells (readings steps) := by
  induction steps using List.reverseRecOn with
  | nil => exact tells_start column descending filter interval
  | append_singleton past next ih =>
    rw [session_run_snoc, readings, List.filterMap_append]
    cases next with
    | key control key =>
      -- Neither a key nor a change of the window is among the readings.
      simp only [Happening.reading?, List.filterMap_cons, List.filterMap_nil, List.append_nil]
      exact ih.of_sameShown (sameShown_press _ control key)
    | pass reading => exact ih.refresh reading
    | resize rows =>
      simp only [Happening.reading?, List.filterMap_cons, List.filterMap_nil, List.append_nil]
      exact ih.of_sameShown ⟨rfl, rfl, Table.settle_samples _, rfl⟩

/-- The rows of the list are samples of the pass. -/
theorem mem_samples_of_mem_toList (column : SortColumn) (descending : Bool) (filter : String)
    (interval : Nat) (steps : List Happening) {sample : ProcessSample}
    (h : sample ∈ ((start column descending filter interval).run steps).session.table.toList) :
    sample ∈ ((start column descending filter interval).run steps).session.table.samples := by
  obtain ⟨operations, htable⟩ := table_run (start column descending filter interval) steps
  have hview := Table.canonical_run column descending filter operations
  rw [htable] at h ⊢
  obtain ⟨row, hrow, rfl⟩ := List.mem_map.mp h
  exact List.mem_of_getElem? ((hview.mem_iff row).mp hrow).1

/-! ## The laws -/

/-- After a first pass, and whatever happens since, all that a frame shows is of the
latest pass: the metrics, the samples of the list and their count, its rows, the
newest value of both histories, and those of the processors, one history for each up
to 64 of them. The two histories hold the newest 60 passes, oldest first, in step
with each other. No key changes any of it. -/
theorem a_frame_shows_the_latest_pass (column : SortColumn) (descending : Bool) (filter : String)
    (interval : Nat) (first : Reading) (rest : List Happening) :
    let steps := .pass first :: rest
    let s := ((start column descending filter interval).run steps).session
    (∃ latest, (passes steps).getLast? = some latest ∧
      s.metrics = latest.metrics ∧ s.table.samples = latest.samples ∧
      s.table.total = s.metrics.tasks ∧ (∀ sample ∈ s.table.toList, sample ∈ latest.samples) ∧
      s.history.cpu.toList.getLast? = some s.metrics.cpu ∧
      s.history.memory.toList.getLast? = some s.metrics.memory ∧
      s.history.Ends s.metrics.cores) ∧
    (passes steps).length = (readings steps).length ∧
    s.history.cpu.toList = ((passes steps).rtake History.capacity).map (·.metrics.cpu) ∧
    s.history.memory.toList = ((passes steps).rtake History.capacity).map (·.metrics.memory) ∧
    s.history.cpu.toList.length = min (readings steps).length History.capacity ∧
    s.history.memory.toList.length = min (readings steps).length History.capacity ∧
    ∀ control key, s.SameShown (s.press control key).1.session := by
  intro steps s
  have h : s.Tells (readings steps) := tells_run column descending filter interval steps
  have hlength : (passes steps).length = (readings steps).length := Pass.length_series _ _
  obtain ⟨latest, hlatest⟩ : ∃ latest, (passes steps).getLast? = some latest :=
    Option.isSome_iff_exists.mp rfl
  obtain ⟨hmetrics, hsamples, hcores⟩ := h.latest latest hlatest
  have htasks := Pass.tasks_of_mem_series (List.mem_of_getLast? hlatest)
  refine ⟨⟨latest, hlatest, hmetrics, hsamples, ?_, ?_, ?_, ?_, hmetrics ▸ hcores⟩, hlength,
    h.cpu.toList_map, h.memory.toList_map, ?_, ?_, sameShown_press s⟩
  · rw [Table.total, hsamples, hmetrics, htasks]
  · intro sample hsample
    rw [← hsamples]
    exact mem_samples_of_mem_toList column descending filter interval steps hsample
  · rw [h.cpu.newest, List.getLast?_map, ← passes, hlatest, hmetrics]
    rfl
  · rw [h.memory.newest, List.getLast?_map, ← passes, hlatest, hmetrics]
    rfl
  · rw [h.cpu.length, List.length_map, ← passes, hlength]
  · rw [h.memory.length, List.length_map, ← passes, hlength]

end Session

end ProcessMonitor
