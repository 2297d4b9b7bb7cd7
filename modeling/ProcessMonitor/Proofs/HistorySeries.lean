-- The laws of the histories behind the graphs. The two of the whole host hold the
-- newest passes there are. Those of the processors start anew when their number
-- changes, so they hold the newest of the latest run of passes that list equally many.
import ProcessMonitor.History.Series
import ProcessMonitor.Proofs.RingSamples
import ProcessMonitor.Sampling.Pass

namespace ProcessMonitor

/-! ## One history -/

theorem rtake_map {α β : Type} (f : α → β) (l : List α) (count : Nat) :
    (l.map f).rtake count = (l.rtake count).map f := by
  rw [List.rtake, List.rtake, List.map_drop, List.length_map]

/-- A history that has seen these values, oldest first, and holds the newest of
them. -/
structure Ring.Keeps (ring : Ring) (values : List Double) : Prop where
  good : ring.Good
  capacity : ring.capacity = History.capacity
  toList : ring.toList = values.rtake History.capacity

namespace Ring

theorem keeps_empty : (empty History.capacity).Keeps [] where
  good := good_empty _
  capacity := rfl
  toList := List.eq_nil_of_length_eq_zero (length_toList (good_empty _))

theorem Keeps.push {ring : Ring} {values : List Double} (h : ring.Keeps values) (value : Double) :
    (ring.push value).Keeps (values ++ [value]) where
  good := good_push h.good value
  capacity := h.capacity
  toList := by
    rw [toList_push h.good, h.toList, h.capacity]
    exact rtake_rtake_append values value (by decide)

theorem Keeps.length {ring : Ring} {values : List Double} (h : ring.Keeps values) :
    ring.toList.length = min values.length History.capacity := by
  rw [h.toList, List.rtake, List.length_drop]
  omega

theorem Keeps.newest {ring : Ring} {values : List Double} (h : ring.Keeps values) :
    ring.toList.getLast? = values.getLast? := by
  have hcapacity : 1 ≤ History.capacity := by decide
  rw [h.toList, List.rtake, List.getLast?_drop]
  split
  · have hnil : values = [] := List.eq_nil_of_length_eq_zero (by omega)
    rw [hnil, List.getLast?_nil]
  · rfl

/-- The values are those of passes, and the newest of them those of the newest
passes. -/
theorem Keeps.toList_map {α : Type} {ring : Ring} {passes : List α} {value : α → Double}
    (h : ring.Keeps (passes.map value)) :
    ring.toList = (passes.rtake History.capacity).map value := by
  rw [h.toList, rtake_map]

end Ring

namespace History

/-! ## The histories of the processors -/

theorem good_tracked {cores : List Ring} (h : ∀ ring ∈ cores, ring.Good) (count : Nat) :
    ∀ ring ∈ tracked cores count, ring.Good := by
  unfold tracked
  split
  · exact h
  · intro ring hring
    rw [List.eq_of_mem_replicate hring]
    exact Ring.good_empty capacity

theorem length_tracked (cores : List Ring) (count : Nat) :
    (tracked cores count).length = count := by
  unfold tracked
  split
  · exact beq_iff_eq.mp ‹_›
  · exact List.length_replicate

theorem length_cores_record (history : History) (cpu memory : Double) (cores : List Double) :
    (history.record cpu memory cores).cores.length = min cores.length maxCores := by
  rw [record, List.length_zipWith, length_tracked]
  omega

/-- One history for each processor, up to the most there are, and each ends with the
value of its processor. -/
structure Ends (history : History) (values : List Double) : Prop where
  length : history.cores.length = min values.length maxCores
  newest : ∀ (i : Nat) (ring : Ring), history.cores[i]? = some ring →
    ∃ value, values[i]? = some value ∧ ring.toList.getLast? = some value

section Record

variable (history : History) (cpu memory : Double) (cores : List Double)
  (h : ∀ ring ∈ history.cores, ring.Good)

include h in
theorem good_cores_record : ∀ ring ∈ (history.record cpu memory cores).cores, ring.Good := by
  intro ring hring
  obtain ⟨i, hi⟩ := List.mem_iff_getElem?.mp hring
  obtain ⟨old, value, hold, _, rfl⟩ := List.getElem?_zipWith_eq_some.mp hi
  exact Ring.good_push (good_tracked h _ old (List.mem_of_getElem? hold)) value

include h in
theorem ends_record : (history.record cpu memory cores).Ends cores where
  length := length_cores_record history cpu memory cores
  newest := by
    intro i ring hi
    obtain ⟨old, value, hold, hvalue, rfl⟩ := List.getElem?_zipWith_eq_some.mp hi
    have hgood := good_tracked h _ old (List.mem_of_getElem? hold)
    exact ⟨value, hvalue, Ring.getLast?_toList_push hgood value⟩

end Record

/-! ## Passes one after the other -/

/-- The histories after passes in order. -/
def recordAll (history : History) (passes : List Metrics) : History :=
  passes.foldl (fun history pass => history.record pass.cpu pass.memory pass.cores) history

/-- How many processors of a pass have a history. -/
def trackedCount (pass : Metrics) : Nat := min pass.cores.length maxCores

/-- The longest run of the newest passes that have histories for `count` processors
each. -/
structure LatestRun (count : Nat) (passes run : List Metrics) : Prop where
  suffix : run <:+ passes
  alike : ∀ pass ∈ run, trackedCount pass = count
  longest : ∀ other, other <:+ passes → (∀ pass ∈ other, trackedCount pass = count) → other <:+ run

theorem latestRun_nil (count : Nat) : LatestRun count [] [] where
  suffix := List.suffix_refl []
  alike _ h := absurd h List.not_mem_nil
  longest _ h _ := h

/-- One more pass of as many processors belongs to the run. -/
theorem LatestRun.continued {count : Nat} {passes run : List Metrics}
    (h : LatestRun count passes run) {next : Metrics} (hnext : trackedCount next = count) :
    LatestRun count (passes ++ [next]) (run ++ [next]) where
  suffix := List.suffix_append_self_iff.mpr h.suffix
  alike := by
    intro pass hpass
    rcases List.mem_append.mp hpass with hold | hnew
    · exact h.alike pass hold
    · rw [List.mem_singleton.mp hnew, hnext]
  longest := by
    intro other hother halike
    rcases List.suffix_concat_iff.mp hother with rfl | ⟨front, rfl, hfront⟩
    · exact List.nil_suffix
    · exact List.suffix_append_self_iff.mpr (h.longest front hfront fun pass hpass =>
        halike pass (List.mem_append_left _ hpass))

/-- A pass of more or fewer processors than the pass before it is a run of its own. -/
theorem latestRun_anew {passes : List Metrics} {next : Metrics}
    (h : ∀ last, passes.getLast? = some last → trackedCount last ≠ trackedCount next) :
    LatestRun (trackedCount next) (passes ++ [next]) [next] where
  suffix := List.suffix_append passes [next]
  alike pass hpass := by rw [List.mem_singleton.mp hpass]
  longest := by
    intro other hother halike
    rcases List.suffix_concat_iff.mp hother with rfl | ⟨front, rfl, hfront⟩
    · exact List.nil_suffix
    · rcases List.eq_nil_or_concat' front with rfl | ⟨start, last, rfl⟩
      · exact List.suffix_refl [next]
      · -- A longer run would reach back to the pass before.
        obtain ⟨before, rfl⟩ := hfront
        have hlast : (before ++ (start ++ [last])).getLast? = some last := by
          rw [← List.append_assoc, List.getLast?_concat]
        exact absurd (halike last (by simp)) (h last hlast)

/-- The histories of the processors after these passes hold the values of the run. -/
structure Spans (history : History) (passes run : List Metrics) : Prop where
  latest : LatestRun history.cores.length passes run
  count : ∀ last, passes.getLast? = some last → history.cores.length = trackedCount last
  /-- Each pass of the run has a value for each of them. -/
  series : ∀ (i : Nat) (ring : Ring), history.cores[i]? = some ring →
    ∃ values, run.map (fun pass => pass.cores[i]?) = values.map some ∧ ring.Keeps values

theorem spans_empty : empty.Spans [] [] where
  latest := latestRun_nil _
  count _ h := by simp at h
  series _ _ h := by simp [empty] at h

section Next

variable {history : History} {passes run : List Metrics} (next : Metrics)

theorem length_cores_next :
    (history.record next.cpu next.memory next.cores).cores.length = trackedCount next :=
  length_cores_record history next.cpu next.memory next.cores

theorem count_next (last : Metrics) (hlast : (passes ++ [next]).getLast? = some last) :
    (history.record next.cpu next.memory next.cores).cores.length = trackedCount last := by
  rw [List.getLast?_concat] at hlast
  rw [length_cores_next, Option.some.inj hlast]

/-- A history of a processor is one that was tracked, with the value of the pass added. -/
theorem getElem?_cores_next (i : Nat) (ring : Ring) :
    (history.record next.cpu next.memory next.cores).cores[i]? = some ring ↔
      ∃ old value, (tracked history.cores (trackedCount next))[i]? = some old ∧
        next.cores[i]? = some value ∧ old.push value = ring :=
  List.getElem?_zipWith_eq_some

/-- As many processors as before keep their histories. -/
theorem tracked_of_eq (h : trackedCount next = history.cores.length) :
    tracked history.cores (trackedCount next) = history.cores := by
  rw [tracked, h, if_pos (beq_self_eq_true _)]

theorem getElem?_cores_of_eq (h : trackedCount next = history.cores.length) {i : Nat} {old : Ring}
    (hold : history.cores[i]? = some old) : ∃ value, next.cores[i]? = some value ∧
      (history.record next.cpu next.memory next.cores).cores[i]? = some (old.push value) := by
  have hi : i < history.cores.length := (List.getElem?_eq_some_iff.mp hold).1
  have hlisted : i < next.cores.length := by
    rw [← h, trackedCount] at hi
    omega
  refine ⟨next.cores[i], List.getElem?_eq_getElem hlisted, ?_⟩
  rw [getElem?_cores_next, tracked_of_eq next h]
  exact ⟨old, _, hold, List.getElem?_eq_getElem hlisted, rfl⟩

theorem Spans.continued (h : history.Spans passes run)
    (hnext : trackedCount next = history.cores.length) :
    (history.record next.cpu next.memory next.cores).Spans (passes ++ [next]) (run ++ [next]) where
  latest := by
    rw [length_cores_next, hnext]
    exact h.latest.continued hnext
  count := count_next next
  series := by
    intro i ring hring
    obtain ⟨old, value, hold, hvalue, rfl⟩ := (getElem?_cores_next next i ring).mp hring
    rw [tracked_of_eq next hnext] at hold
    obtain ⟨values, hvalues, hkeeps⟩ := h.series i old hold
    refine ⟨values ++ [value], ?_, hkeeps.push value⟩
    rw [List.map_append, List.map_append, hvalues, List.map_singleton, List.map_singleton, hvalue]

theorem Spans.anew (h : history.Spans passes run)
    (hnext : trackedCount next ≠ history.cores.length) :
    (history.record next.cpu next.memory next.cores).Spans (passes ++ [next]) [next] where
  latest := by
    rw [length_cores_next]
    refine latestRun_anew fun last hlast heq => hnext ?_
    rw [h.count last hlast, heq]
  count := count_next next
  series := by
    intro i ring hring
    obtain ⟨old, value, hold, hvalue, rfl⟩ := (getElem?_cores_next next i ring).mp hring
    rw [tracked, if_neg (by simpa using hnext.symm)] at hold
    rw [List.eq_of_mem_replicate (List.mem_of_getElem? hold)]
    refine ⟨[value], ?_, Ring.keeps_empty.push value⟩
    rw [List.map_singleton, List.map_singleton, hvalue]

end Next

theorem recordAll_snoc (history : History) (passes : List Metrics) (next : Metrics) :
    history.recordAll (passes ++ [next]) =
      (history.recordAll passes).record next.cpu next.memory next.cores := by
  simp [recordAll]

theorem spans_recordAll (passes : List Metrics) :
    ∃ run, (empty.recordAll passes).Spans passes run := by
  induction passes using List.reverseRecOn with
  | nil => exact ⟨[], spans_empty⟩
  | append_singleton past next ih =>
    obtain ⟨run, h⟩ := ih
    rw [recordAll_snoc]
    by_cases hnext : trackedCount next = (empty.recordAll past).cores.length
    · exact ⟨run ++ [next], h.continued next hnext⟩
    · exact ⟨[next], h.anew next hnext⟩

/-- A history that takes a value of every pass has seen those of all passes. -/
theorem keeps_recordAll (series : History → Ring) (value : Metrics → Double)
    (hempty : series empty = Ring.empty capacity)
    (hrecord : ∀ (history : History) (next : Metrics),
      series (history.record next.cpu next.memory next.cores) = (series history).push (value next))
    (passes : List Metrics) : (series (empty.recordAll passes)).Keeps (passes.map value) := by
  induction passes using List.reverseRecOn with
  | nil =>
    rw [recordAll, List.foldl_nil, hempty]
    exact Ring.keeps_empty
  | append_singleton past next ih =>
    rw [recordAll_snoc, hrecord, List.map_append]
    exact ih.push (value next)

/-- The history holds the newest values of its processor over the run. -/
theorem Spans.toList {history : History} {passes run : List Metrics}
    (h : history.Spans passes run) {i : Nat} {ring : Ring} (hring : history.cores[i]? = some ring) :
    ring.toList.map some = (run.map fun pass => pass.cores[i]?).rtake capacity := by
  obtain ⟨values, hvalues, hkeeps⟩ := h.series i ring hring
  rw [hvalues, hkeeps.toList, rtake_map]

theorem Spans.length {history : History} {passes run : List Metrics}
    (h : history.Spans passes run) {i : Nat} {ring : Ring} (hring : history.cores[i]? = some ring) :
    ring.toList.length = min run.length capacity := by
  obtain ⟨values, hvalues, hkeeps⟩ := h.series i ring hring
  have hlength := congrArg List.length hvalues
  rw [List.length_map, List.length_map] at hlength
  rw [hkeeps.length, hlength]

/-! ## The laws -/

/-- After any passes there are as many histories of processors as the last pass has
processors, up to 64. Each holds the newest values of its processor, oldest first, over
the longest run of the newest passes that have equally many histories, so all of them are
of one length. They go on when both the last pass and the next have 64 processors or
more. The two histories of the host hold the newest of all passes. -/
theorem the_processors_have_the_series_of_the_latest_run (passes : List Metrics) :
    let history := empty.recordAll passes
    (∀ last, passes.getLast? = some last → history.cores.length = min last.cores.length maxCores) ∧
      (∃ run, LatestRun history.cores.length passes run ∧
        ∀ (i : Nat) (ring : Ring), history.cores[i]? = some ring →
          ring.toList.map some = (run.map fun pass => pass.cores[i]?).rtake capacity ∧
            ring.toList.length = min run.length capacity) ∧
      (∀ last next, passes.getLast? = some last →
        maxCores ≤ last.cores.length → maxCores ≤ next.cores.length →
          ∀ (i : Nat) (old : Ring), history.cores[i]? = some old →
            ∃ value new, next.cores[i]? = some value ∧
              (empty.recordAll (passes ++ [next])).cores[i]? = some new ∧
              new.toList = (old.toList ++ [value]).rtake capacity) ∧
      history.cpu.toList = (passes.map (·.cpu)).rtake capacity ∧
      history.memory.toList = (passes.map (·.memory)).rtake capacity := by
  intro history
  obtain ⟨run, h⟩ : ∃ run, history.Spans passes run := spans_recordAll passes
  have hcpu : history.cpu.Keeps (passes.map (·.cpu)) :=
    keeps_recordAll (·.cpu) (·.cpu) rfl (fun _ _ => rfl) passes
  have hmemory : history.memory.Keeps (passes.map (·.memory)) :=
    keeps_recordAll (·.memory) (·.memory) rfl (fun _ _ => rfl) passes
  refine ⟨h.count, ⟨run, h.latest, fun i ring hring => ⟨h.toList hring, h.length hring⟩⟩, ?_,
    hcpu.toList, hmemory.toList⟩
  intro last next hlast hmany hmore i old hold
  have hnext : trackedCount next = history.cores.length := by
    rw [h.count last hlast, trackedCount, trackedCount, Nat.min_eq_right hmany,
      Nat.min_eq_right hmore]
  obtain ⟨value, hvalue, hnew⟩ := getElem?_cores_of_eq next hnext hold
  obtain ⟨_, _, hkeeps⟩ := h.series i old hold
  refine ⟨value, old.push value, hvalue, by rw [recordAll_snoc, hnew], ?_⟩
  rw [Ring.toList_push hkeeps.good, hkeeps.capacity]

end History

end ProcessMonitor
