-- The laws of passes one after the other. What a pass remembers of the processors
-- and of the processes stems from the last readable reading, so a share is always
-- taken of the ticks that passed between the same two readings.
import Mathlib.Data.List.Induction
import ProcessMonitor.Proofs.Percent
import ProcessMonitor.Sampling.Pass

namespace ProcessMonitor

namespace Reading

/-- The records of processes, in the order of the host. -/
def listed (reading : Reading) : List ProcessRecord :=
  reading.processes.filter fun record => record.pid > 0

def Lists (reading : Reading) (pid : Int) : Prop := ∃ record ∈ reading.listed, record.pid = pid

/-- The reading lists the process with these ticks. -/
def Counts (reading : Reading) (pid : Int) (ticks : Nat) : Prop :=
  ∃ record ∈ reading.listed, record.pid = pid ∧ record.ticks = ticks

end Reading

namespace Pass

/-! ## The processes of one pass -/

/-- The share of a process in the ticks that passed, by what the baseline knows of
it. -/
def shareOf (base : Baseline) (elapsed : Nat) (record : ProcessRecord) : Double :=
  match base.processes[record.pid]? with
  | none => zeroPercent
  | some before => usagePercent (record.ticks - before) elapsed

/-- Without a pid twice, no process is measured against the ticks that the same pass
noted. -/
theorem samples_measureAll (memoryTotal elapsed : Nat) (base : Baseline)
    (records : List ProcessRecord) (h : (records.map (·.pid)).Nodup) :
    (measureAll memoryTotal elapsed base records).1 =
      records.map fun record => sampleOf record (shareOf base elapsed record) memoryTotal := by
  induction records generalizing base with
  | nil => rfl
  | cons record rest ih =>
    rw [List.map_cons, List.nodup_cons] at h
    obtain ⟨hnew, hrest⟩ := h
    simp only [measureAll, ih _ hrest, List.map_cons]
    congr 1
    apply List.map_congr_left
    intro other hother
    -- The ticks of a process are noted before the later ones are measured.
    have hne : record.pid ≠ other.pid := by
      intro heq
      exact hnew (heq ▸ List.mem_map_of_mem hother)
    simp [shareOf, Baseline.measureProcess, Std.HashMap.getElem?_insert, hne]

theorem measureAll_processors (memoryTotal elapsed : Nat) (base : Baseline)
    (records : List ProcessRecord) :
    (measureAll memoryTotal elapsed base records).2.cpu = base.cpu ∧
      (measureAll memoryTotal elapsed base records).2.cores = base.cores := by
  induction records generalizing base with
  | nil => exact ⟨rfl, rfl⟩
  | cons record rest ih => exact ih _

/-- The ticks of the records are noted, and the notes of other processes stay. -/
theorem measureAll_processes (memoryTotal elapsed : Nat) (base : Baseline)
    (records : List ProcessRecord) (h : (records.map (·.pid)).Nodup) (pid : Int) (ticks : Nat) :
    (measureAll memoryTotal elapsed base records).2.processes[pid]? = some ticks ↔
      (∃ record ∈ records, record.pid = pid ∧ record.ticks = ticks) ∨
        (∀ record ∈ records, record.pid ≠ pid) ∧ base.processes[pid]? = some ticks := by
  induction records generalizing base with
  | nil => simp [measureAll]
  | cons record rest ih =>
    rw [List.map_cons, List.nodup_cons] at h
    obtain ⟨hnew, hrest⟩ := h
    simp only [measureAll, ih _ hrest, Baseline.measureProcess, Std.HashMap.getElem?_insert,
      List.mem_cons, exists_eq_or_imp, forall_eq_or_imp]
    by_cases hpid : record.pid = pid
    · have habsent : ∀ other ∈ rest, other.pid ≠ pid := by
        intro other hother heq
        exact hnew (hpid ▸ heq ▸ List.mem_map_of_mem hother)
      have hnone : ¬ ∃ other ∈ rest, other.pid = pid ∧ other.ticks = ticks := by
        rintro ⟨other, hother, heq, _⟩
        exact habsent other hother heq
      simp [hpid, hnone]
      exact fun _ => habsent
    · simp [hpid]

end Pass

namespace Baseline

theorem keepOnly_processes (base : Baseline) (pids : List Int) (pid : Int) (ticks : Nat) :
    (base.keepOnly pids).processes[pid]? = some ticks ↔
      base.processes[pid]? = some ticks ∧ pid ∈ pids := by
  simp [keepOnly, Option.filter_eq_some_iff, Std.HashSet.contains_ofList]

end Baseline

namespace Pass

/-! ## One pass -/

theorem pids_map_sampleOf (records : List ProcessRecord) (share : ProcessRecord → Double)
    (memoryTotal : Nat) :
    (records.map fun record => sampleOf record (share record) memoryTotal).map (·.pid) =
      records.map (·.pid) := by
  simp [sampleOf, Function.comp_def]

/-- The pass shows these shares of all processors and of each, and its samples are the
records of the reading, in order, with their shares. -/
def Shows (pass : Pass) (reading : Reading) (cpu : Double) (cores : List Double)
    (share : ProcessRecord → Double) : Prop :=
  pass.metrics.cpu = cpu ∧ pass.metrics.cores = cores ∧
    pass.samples = reading.listed.map fun record =>
      sampleOf record (share record) reading.memory.total

section One

variable (base : Baseline) (reading : Reading)

theorem take_unreadable (h : reading.cpu = none) :
    (take base reading).1.Shows reading zeroPercent (reading.cores.map fun _ => zeroPercent)
      fun _ => zeroPercent := by
  simp [Shows, take, h, Baseline.measure, metricsOf, unmeasured, Reading.listed]

/-- An unreadable reading leaves the baseline, less the processes that are gone. -/
theorem baseline_unreadable (h : reading.cpu = none) :
    (take base reading).2.cpu = base.cpu ∧ (take base reading).2.cores = base.cores ∧
      ∀ pid ticks, (take base reading).2.processes[pid]? = some ticks ↔
        base.processes[pid]? = some ticks ∧ reading.Lists pid := by
  have hsnd : (take base reading).2 = base.keepOnly (reading.listed.map (·.pid)) := by
    simp [take, h, Baseline.measure, unmeasured, Reading.listed, sampleOf, Function.comp_def]
  rw [hsnd]
  refine ⟨rfl, rfl, ?_⟩
  intro pid ticks
  rw [Baseline.keepOnly_processes, List.mem_map]
  rfl

variable (now : Ticks) (hdistinct : (reading.processes.map (·.pid)).Nodup)

include hdistinct in
theorem nodup_listed : (reading.listed.map (·.pid)).Nodup :=
  hdistinct.sublist (List.filter_sublist.map _)

include hdistinct in
/-- The first readable reading has nothing to be measured against. -/
theorem take_first (h : reading.cpu = some now) (hcpu : base.cpu = none) (hcores : base.cores = [])
    (hprocesses : ∀ pid : Int, base.processes[pid]? = none) :
    (take base reading).1.Shows reading zeroPercent (reading.cores.map fun _ => zeroPercent)
      fun _ => zeroPercent := by
  have hnodup := nodup_listed reading hdistinct
  refine ⟨by simp [take, h, hcpu, Baseline.measure, metricsOf], ?_, ?_⟩
  · have hcold : Baseline.coreUsage [] reading.cores = reading.cores.map fun _ => zeroPercent := by
      cases reading.cores <;> rfl
    simp [take, h, hcores, hcold, Baseline.measure, metricsOf]
  · simp only [take, h, Option.isSome_some, if_true]
    rw [← Reading.listed, samples_measureAll _ _ _ _ hnodup]
    simp [shareOf, Baseline.measure, hprocesses]

include hdistinct in
/-- A readable reading is measured against the baseline. -/
theorem take_since (h : reading.cpu = some now) (before : Ticks) (hcpu : base.cpu = some before) :
    (take base reading).1.Shows reading (before.usage now)
      (Baseline.coreUsage base.cores reading.cores)
      (shareOf base (now.total - before.total)) := by
  have hnodup := nodup_listed reading hdistinct
  refine ⟨by simp [take, h, hcpu, Baseline.measure, metricsOf],
    by simp [take, h, Baseline.measure, metricsOf], ?_⟩
  simp only [take, h, Option.isSome_some, if_true]
  rw [← Reading.listed, samples_measureAll _ _ _ _ hnodup]
  simp [shareOf, Baseline.measure, hcpu]

include hdistinct in
/-- A readable reading becomes the baseline. -/
theorem baseline_readable (h : reading.cpu = some now) :
    (take base reading).2.cpu = some now ∧ (take base reading).2.cores = reading.cores ∧
      ∀ pid ticks, (take base reading).2.processes[pid]? = some ticks ↔
        reading.Counts pid ticks := by
  have hnodup := nodup_listed reading hdistinct
  have hsnd : (take base reading).2 =
      (measureAll reading.memory.total (base.measure (some now) reading.cores).1.elapsed
        (base.measure (some now) reading.cores).2 reading.listed).2.keepOnly
          (reading.listed.map (·.pid)) := by
    have hpids := pids_map_sampleOf reading.listed
      (shareOf (base.measure (some now) reading.cores).2
        (base.measure (some now) reading.cores).1.elapsed) reading.memory.total
    rw [← samples_measureAll _ _ _ _ hnodup] at hpids
    rw [← hpids]
    simp only [take, h, Option.isSome_some, if_true]
    rfl
  obtain ⟨hcpu, hcores⟩ := measureAll_processors reading.memory.total
    (base.measure (some now) reading.cores).1.elapsed (base.measure (some now) reading.cores).2
    reading.listed
  rw [hsnd]
  refine ⟨hcpu, hcores, ?_⟩
  intro pid ticks
  rw [Baseline.keepOnly_processes, measureAll_processes _ _ _ _ hnodup, List.mem_map]
  constructor
  · rintro ⟨hcounts | ⟨habsent, _⟩, record, hrecord, heq⟩
    · exact hcounts
    · exact absurd heq (habsent record hrecord)
  · rintro ⟨record, hrecord, heq, hticks⟩
    exact ⟨Or.inl ⟨record, hrecord, heq, hticks⟩, record, hrecord, heq⟩

end One

/-! ## Passes in a row -/

/-- Passes one after the other, each on the baseline that the one before left. -/
def series : Baseline → List Reading → List Pass
  | _, [] => []
  | base, reading :: rest => (take base reading).1 :: series (take base reading).2 rest

/-- The baseline that readings leave. -/
def baselineAfter (base : Baseline) (readings : List Reading) : Baseline :=
  readings.foldl (fun base reading => (take base reading).2) base

theorem baselineAfter_snoc (base : Baseline) (past : List Reading) (reading : Reading) :
    baselineAfter base (past ++ [reading]) = (take (baselineAfter base past) reading).2 := by
  simp [baselineAfter]

theorem length_series (base : Baseline) (readings : List Reading) :
    (series base readings).length = readings.length := by
  induction readings generalizing base with
  | nil => rfl
  | cons reading rest ih => simp [series, ih]

theorem getElem?_series (base : Baseline) (readings : List Reading) (k : Nat) :
    (series base readings)[k]? =
      readings[k]?.map fun reading => (take (baselineAfter base (readings.take k)) reading).1 := by
  induction readings generalizing base k with
  | nil => simp [series]
  | cons reading rest ih =>
    cases k with
    | zero => rfl
    | succ k => exact ih (take base reading).2 k

end Pass

/-! ## What the baseline stems from -/

/-- What stands at a place of a list that one more was added to. -/
theorem getElem?_snoc {α : Type} (past : List α) (added : α) (i : Nat) (found : α) :
    (past ++ [added])[i]? = some found ↔
      past[i]? = some found ∨ (i = past.length ∧ added = found) := by
  by_cases hi : i < past.length
  · have hne : i ≠ past.length := Nat.ne_of_lt hi
    simp [List.getElem?_append_left hi, hne]
  · have hpast : past[i]? = none := List.getElem?_eq_none (Nat.le_of_not_lt hi)
    rw [List.getElem?_append_right (Nat.le_of_not_lt hi), List.getElem?_singleton, hpast]
    split <;> simp <;> omega

/-- The reading at place `j` is the last readable one of `past`. -/
structure LastReadable (past : List Reading) (j : Nat) (reading : Reading) (counters : Ticks) :
    Prop where
  stands : past[j]? = some reading
  readable : reading.cpu = some counters
  last : ∀ i other, j < i → past[i]? = some other → other.cpu = none

theorem LastReadable.lt_length {past : List Reading} {j : Nat} {reading : Reading}
    {counters : Ticks} (h : LastReadable past j reading counters) : j < past.length :=
  (List.getElem?_eq_some_iff.mp h.stands).1

/-- Every reading from place `j` on lists the process. -/
def ListedSince (past : List Reading) (j : Nat) (pid : Int) : Prop :=
  ∀ i other, j ≤ i → past[i]? = some other → other.Lists pid

/-- The baseline after readings. Before the first readable one it is empty. After it,
it holds the counters of the last readable one, and the ticks that this one counts
for the processes listed ever since. -/
structure Baseline.Stands (base : Baseline) (past : List Reading) : Prop where
  cold : (∀ reading ∈ past, reading.cpu = none) →
    base.cpu = none ∧ base.cores = [] ∧ ∀ pid : Int, base.processes[pid]? = none
  warm : ∀ j reading counters, LastReadable past j reading counters →
    base.cpu = some counters ∧ base.cores = reading.cores ∧
      ∀ pid ticks, base.processes[pid]? = some ticks ↔
        reading.Counts pid ticks ∧ ListedSince past j pid

theorem Baseline.stands_empty : Baseline.empty.Stands [] where
  cold _ := ⟨rfl, rfl, fun _ => Std.HashMap.getElem?_empty⟩
  warm _ _ _ h := absurd h.lt_length (Nat.not_lt_zero _)

theorem Reading.Counts.lists {reading : Reading} {pid : Int} {ticks : Nat}
    (h : reading.Counts pid ticks) : reading.Lists pid := by
  obtain ⟨record, hrecord, heq, _⟩ := h
  exact ⟨record, hrecord, heq⟩

theorem listedSince_snoc (past : List Reading) (reading : Reading) {j : Nat}
    (hj : j ≤ past.length) (pid : Int) :
    ListedSince (past ++ [reading]) j pid ↔ ListedSince past j pid ∧ reading.Lists pid := by
  constructor
  · intro h
    refine ⟨?_, h past.length reading hj (by simp)⟩
    intro i other hi hother
    exact h i other hi ((getElem?_snoc _ _ _ _).mpr (Or.inl hother))
  · rintro ⟨hpast, hreading⟩ i other hi hother
    rcases (getElem?_snoc _ _ _ _).mp hother with hold | ⟨_, rfl⟩
    · exact hpast i other hi hold
    · exact hreading

/-- The last readable reading of more readings is the new one, or it is still the last
readable one of those before. -/
theorem LastReadable.cases_snoc {past : List Reading} {reading : Reading} {j : Nat}
    {found : Reading} {counters : Ticks} (h : LastReadable (past ++ [reading]) j found counters) :
    (j = past.length ∧ found = reading) ∨
      (LastReadable past j found counters ∧ reading.cpu = none) := by
  rcases (getElem?_snoc _ _ _ _).mp h.stands with hold | ⟨hj, hreading⟩
  · have hlt : j < past.length := (List.getElem?_eq_some_iff.mp hold).1
    refine Or.inr ⟨⟨hold, h.readable, ?_⟩, h.last past.length reading hlt (by simp)⟩
    intro i other hi hother
    exact h.last i other hi ((getElem?_snoc _ _ _ _).mpr (Or.inl hother))
  · exact Or.inl ⟨hj, hreading.symm⟩

theorem exists_lastReadable {past : List Reading} (h : ¬ ∀ reading ∈ past, reading.cpu = none) :
    ∃ j reading counters, LastReadable past j reading counters := by
  induction past using List.reverseRecOn with
  | nil => exact absurd (fun _ hmem => absurd hmem List.not_mem_nil) h
  | append_singleton past reading ih =>
    cases hcpu : reading.cpu with
    | some counters =>
      refine ⟨past.length, reading, counters, by simp, hcpu, ?_⟩
      intro i other hi hother
      have hlt := (List.getElem?_eq_some_iff.mp hother).1
      rw [List.length_append, List.length_singleton] at hlt
      omega
    | none =>
      have hpast : ¬ ∀ other ∈ past, other.cpu = none := by
        intro hall
        apply h
        intro other hother
        rcases List.mem_append.mp hother with hold | hnew
        · exact hall other hold
        · exact List.mem_singleton.mp hnew ▸ hcpu
      obtain ⟨j, found, counters, hlast⟩ := ih hpast
      refine ⟨j, found, counters, (getElem?_snoc _ _ _ _).mpr (Or.inl hlast.stands),
        hlast.readable, ?_⟩
      intro i other hi hother
      rcases (getElem?_snoc _ _ _ _).mp hother with hold | ⟨_, rfl⟩
      · exact hlast.last i other hi hold
      · exact hcpu

theorem LastReadable.not_unreadable {past : List Reading} {j : Nat} {reading : Reading}
    {counters : Ticks} (h : LastReadable past j reading counters) :
    ¬ ∀ other ∈ past, other.cpu = none := by
  intro hall
  have hnone := hall reading (List.mem_of_getElem? h.stands)
  rw [h.readable] at hnone
  exact absurd hnone (by simp)

theorem Baseline.Stands.snoc {base : Baseline} {past : List Reading} (h : base.Stands past)
    (reading : Reading) (hdistinct : (reading.processes.map (·.pid)).Nodup) :
    (Pass.take base reading).2.Stands (past ++ [reading]) where
  cold := by
    intro hall
    have hreading : reading.cpu = none := hall reading (by simp)
    obtain ⟨hcpu, hcores, hprocesses⟩ :=
      h.cold fun other hother => hall other (List.mem_append_left _ hother)
    obtain ⟨hcpu', hcores', hprocesses'⟩ := Pass.baseline_unreadable base reading hreading
    refine ⟨hcpu'.trans hcpu, hcores'.trans hcores, ?_⟩
    intro pid
    rw [Option.eq_none_iff_forall_ne_some]
    intro ticks hticks
    have hkept := ((hprocesses' pid ticks).mp hticks).1
    rw [hprocesses pid] at hkept
    exact absurd hkept (by simp)
  warm := by
    intro j found counters hlast
    rcases hlast.cases_snoc with ⟨rfl, rfl⟩ | ⟨hold, hreading⟩
    · -- The new reading is the last one, so nothing has been listed since but by it.
      obtain ⟨hcpu, hcores, hprocesses⟩ :=
        Pass.baseline_readable base found counters hdistinct hlast.readable
      refine ⟨hcpu, hcores, ?_⟩
      intro pid ticks
      rw [hprocesses, listedSince_snoc past found (Nat.le_refl _)]
      constructor
      · intro hcounts
        refine ⟨hcounts, ?_, hcounts.lists⟩
        intro i other hi hother
        exact absurd (List.getElem?_eq_some_iff.mp hother).1 (by omega)
      · exact fun hboth => hboth.1
    · -- The new reading is unreadable, and drops the processes that it does not list.
      obtain ⟨hcpu, hcores, hprocesses⟩ := h.warm j found counters hold
      obtain ⟨hcpu', hcores', hprocesses'⟩ := Pass.baseline_unreadable base reading hreading
      refine ⟨hcpu'.trans hcpu, hcores'.trans hcores, ?_⟩
      intro pid ticks
      rw [hprocesses', hprocesses, listedSince_snoc past reading (Nat.le_of_lt hold.lt_length),
        and_assoc]

/-- The readings list no pid twice. -/
def Distinct (readings : List Reading) : Prop :=
  ∀ reading ∈ readings, (reading.processes.map (·.pid)).Nodup

theorem stands_baselineAfter (past : List Reading) (h : Distinct past) :
    (Pass.baselineAfter Baseline.empty past).Stands past := by
  induction past using List.reverseRecOn with
  | nil => exact Baseline.stands_empty
  | append_singleton past reading ih =>
    rw [Pass.baselineAfter_snoc]
    exact (ih fun other hother => h other (List.mem_append_left _ hother)).snoc reading
      (h reading (by simp))

/-! ## Shares -/

theorem Baseline.Stands.share_since {base : Baseline} {past : List Reading} (h : base.Stands past)
    {j : Nat} {reading : Reading} {counters : Ticks} (hlast : LastReadable past j reading counters)
    {old record : ProcessRecord} (hold : old ∈ reading.listed) (hpid : old.pid = record.pid)
    (hsince : ListedSince past j record.pid) (elapsed : Nat) :
    Pass.shareOf base elapsed record = usagePercent (record.ticks - old.ticks) elapsed := by
  have hnoted : base.processes[record.pid]? = some old.ticks :=
    ((h.warm j reading counters hlast).2.2 _ _).mpr ⟨⟨old, hold, hpid, rfl⟩, hsince⟩
  rw [Pass.shareOf, hnoted]

theorem Baseline.Stands.share_anew {base : Baseline} {past : List Reading} (h : base.Stands past)
    {j : Nat} {reading : Reading} {counters : Ticks} (hlast : LastReadable past j reading counters)
    {record : ProcessRecord} (hgone : ¬ ListedSince past j record.pid) (elapsed : Nat) :
    Pass.shareOf base elapsed record = zeroPercent := by
  have hnone : base.processes[record.pid]? = none := by
    rw [Option.eq_none_iff_forall_ne_some]
    intro ticks hticks
    exact hgone (((h.warm j reading counters hlast).2.2 _ _).mp hticks).2
  rw [Pass.shareOf, hnone]

theorem isPercent_shareOf (base : Baseline) {elapsed : Nat} (h : elapsed < 2 ^ 64)
    (record : ProcessRecord) : (Pass.shareOf base elapsed record).IsPercent := by
  unfold Pass.shareOf
  split
  · exact isPercent_zeroPercent
  · exact isPercent_usagePercent _ h

theorem isPercent_coreUsage (before now : List Ticks) (h : ∀ line ∈ now, line.total < 2 ^ 64) :
    ∀ core ∈ Baseline.coreUsage before now, core.IsPercent := by
  intro core hcore
  unfold Baseline.coreUsage at hcore
  split at hcore
  · obtain ⟨i, hi, rfl⟩ := List.mem_iff_getElem.mp hcore
    have hi' : i < now.length := Nat.lt_of_lt_of_le hi (List.length_zipWith ▸ Nat.min_le_right _ _)
    have hline := h now[i] (List.getElem_mem hi')
    rw [List.getElem_zipWith]
    exact isPercent_usagePercent _ (by omega)
  · obtain ⟨line, _, rfl⟩ := List.mem_map.mp hcore
    exact isPercent_zeroPercent

/-! ## The laws -/

/-- Every line of counters of every reading sums up to less than 2^64 ticks. -/
def Counted (readings : List Reading) : Prop :=
  ∀ reading ∈ readings, ∀ line ∈ reading.cpu.toList ++ reading.cores, line.total < 2 ^ 64

/-- The pass at place `k` of any row of passes. Its samples are the records of
processes in the order of the host, each with a share. All shares are 0 if its
reading or every reading before is unreadable. Otherwise the processors together,
each processor, and each process are measured against one and the same reading,
the last readable one before: the processors if it has as many of them, and the
process if it was listed from there on; else they are 0. Every share is a
percentage. -/
theorem shares_are_of_the_ticks_between_two_readings (readings : List Reading)
    (hdistinct : Distinct readings) (hcounted : Counted readings) (k : Nat) (reading : Reading)
    (hreading : readings[k]? = some reading) :
    let past := readings.take k
    ∃ (pass : Pass) (cpu : Double) (cores : List Double) (share : ProcessRecord → Double),
      (Pass.series Baseline.empty readings)[k]? = some pass ∧ pass.Shows reading cpu cores share ∧
      (reading.cpu = none ∨ (∀ other ∈ past, other.cpu = none) →
        cpu = zeroPercent ∧ (cores = reading.cores.map fun _ => zeroPercent) ∧
          ∀ record ∈ reading.listed, share record = zeroPercent) ∧
      (∀ now j earlier before, reading.cpu = some now → LastReadable past j earlier before →
        cpu = usagePercent (now.work - before.work) (now.total - before.total) ∧
          (cores =
            if earlier.cores.length = reading.cores.length then
              List.zipWith (fun (a b : Ticks) => usagePercent (b.work - a.work) (b.total - a.total))
                earlier.cores reading.cores
            else reading.cores.map fun _ => zeroPercent) ∧
          ∀ record ∈ reading.listed,
            (∀ old ∈ earlier.listed, old.pid = record.pid → ListedSince past j record.pid →
              share record =
                usagePercent (record.ticks - old.ticks) (now.total - before.total)) ∧
              (¬ ListedSince past j record.pid → share record = zeroPercent)) ∧
      cpu.IsPercent ∧ (∀ core ∈ cores, core.IsPercent) ∧
      ∀ record ∈ reading.listed, (share record).IsPercent := by
  intro past
  have hpast : Distinct past := fun other hother => hdistinct other (List.mem_of_mem_take hother)
  have hstands := stands_baselineAfter past hpast
  have hpass : (Pass.series Baseline.empty readings)[k]? =
      some (Pass.take (Pass.baselineAfter Baseline.empty past) reading).1 := by
    rw [Pass.getElem?_series, hreading]
    rfl
  have hmem : reading ∈ readings := List.mem_of_getElem? hreading
  have hlines := hcounted reading hmem
  generalize Pass.baselineAfter Baseline.empty past = base at hstands hpass
  have hzeros : ∀ core ∈ reading.cores.map fun _ => zeroPercent, core.IsPercent := by
    intro core hcore
    obtain ⟨_, _, rfl⟩ := List.mem_map.mp hcore
    exact isPercent_zeroPercent
  cases hcpu : reading.cpu with
  | none =>
    exact ⟨_, _, _, _, hpass, Pass.take_unreadable base reading hcpu,
      fun _ => ⟨rfl, rfl, fun _ _ => rfl⟩, fun now j earlier before hnow => by simp at hnow,
      isPercent_zeroPercent, hzeros, fun _ _ => isPercent_zeroPercent⟩
  | some now =>
    by_cases hcold : ∀ other ∈ past, other.cpu = none
    · obtain ⟨hnone, hcores, hprocesses⟩ := hstands.cold hcold
      exact ⟨_, _, _, _, hpass, Pass.take_first base reading now (hdistinct reading hmem) hcpu hnone
          hcores hprocesses,
        fun _ => ⟨rfl, rfl, fun _ _ => rfl⟩,
        fun _ j earlier before _ hlast => absurd hcold hlast.not_unreadable,
        isPercent_zeroPercent, hzeros, fun _ _ => isPercent_zeroPercent⟩
    · obtain ⟨j, earlier, before, hlast⟩ := exists_lastReadable hcold
      obtain ⟨hsome, hcores, _⟩ := hstands.warm j earlier before hlast
      have htotal : now.total < 2 ^ 64 := hlines now (by simp [hcpu])
      have helapsed : now.total - before.total < 2 ^ 64 := by omega
      refine ⟨_, _, _, _, hpass, Pass.take_since base reading now (hdistinct reading hmem) hcpu
          before hsome, ?_, ?_, isPercent_usagePercent _ helapsed,
        isPercent_coreUsage _ _ fun line hline => hlines line (by simp [hline]),
        fun record _ => isPercent_shareOf base helapsed record⟩
      · rintro (habsurd | habsurd)
        · exact absurd habsurd (by simp)
        · exact absurd habsurd hcold
      · intro now' j' earlier' before' hnow hlast'
        obtain rfl := Option.some.inj hnow
        obtain ⟨hsome', hcores', _⟩ := hstands.warm j' earlier' before' hlast'
        obtain rfl : before = before' := Option.some.inj (hsome.symm.trans hsome')
        refine ⟨rfl, ?_, ?_⟩
        · simp only [hcores', Baseline.coreUsage, beq_iff_eq]
          rfl
        · intro record _
          exact ⟨fun old hold hpid hsince => hstands.share_since hlast' hold hpid hsince _,
            fun hgone => hstands.share_anew hlast' hgone _⟩

/-- A reading with counters that waited for `idle` ticks and worked for 100, and with
processes by their pids and ticks. -/
def readingOf (idle : Option Nat) (processes : List (Int × Nat)) : Reading :=
  { cpu := idle.map fun idle => ⟨100, 0, 0, idle, 0, 0, 0, 0⟩
    cores := []
    memory := Memory.none
    load := Load.none
    processes := processes.map fun (pid, ticks) =>
      ⟨pid, 1, "root", "sh", "", 'S', ticks, 0, 0, 20, 0, 1⟩ }

/-- Over an unreadable reading the interval reaches back to the readable one before. A
process that only the unreadable one listed first has no share yet. -/
theorem an_unreadable_reading_widens_the_interval :
    let readings := [readingOf (some 0) [(7, 10)], readingOf none [(7, 40), (8, 5)],
      readingOf (some 200) [(7, 70), (8, 9)]]
    Distinct readings ∧ Counted readings ∧
      ∃ pass, (Pass.series Baseline.empty readings)[2]? = some pass ∧
        pass.samples.map (·.pid) = [7, 8] ∧
        pass.samples.map (·.cpu) = [usagePercent 60 200, zeroPercent] := by
  intro readings
  have hdistinct : Distinct readings := by simp [Distinct, readings, readingOf]
  have hcounted : Counted readings := by simp [Counted, readings, readingOf, Ticks.total]
  obtain ⟨pass, _, _, share, hpass, ⟨_, _, hsamples⟩, _, hsince, _⟩ :=
    shares_are_of_the_ticks_between_two_readings readings hdistinct hcounted 2 _ rfl
  have hlast : LastReadable (readings.take 2) 0 readings[0] ⟨100, 0, 0, 0, 0, 0, 0, 0⟩ := by
    refine ⟨rfl, rfl, ?_⟩
    intro i other hi hother
    match i, hi with
    | 1, _ => exact Option.some.inj hother ▸ rfl
    | i + 2, _ => simp [readings] at hother
  obtain ⟨_, _, hshares⟩ := hsince _ 0 _ _ rfl hlast
  have hmember : ∀ record ∈ readings[2].processes, record ∈ readings[2].listed :=
    fun record hrecord => List.mem_filter.mpr ⟨hrecord, by
      revert record; simp [readings, readingOf]⟩
  have hold : share readings[2].processes[0] = usagePercent 60 200 := by
    refine (hshares _ (hmember _ (List.getElem_mem _))).1 readings[0].processes[0] ?_ rfl ?_
    · simp [Reading.listed, readings, readingOf]
    · intro i other _ hother
      match i with
      | 0 | 1 => exact Option.some.inj hother ▸ ⟨_, List.mem_cons_self, rfl⟩
      | i + 2 => simp [readings] at hother
  have hnew : share readings[2].processes[1] = zeroPercent := by
    refine (hshares _ (hmember _ (List.getElem_mem _))).2 ?_
    intro hlisted
    obtain ⟨record, hrecord, hpid⟩ := hlisted 0 readings[0] (Nat.le_refl _) rfl
    simp [Reading.listed, readings, readingOf] at hrecord
    simp [hrecord, readings, readingOf] at hpid
  refine ⟨hdistinct, hcounted, pass, hpass, ?_, ?_⟩
  · rw [hsamples]
    rfl
  · rw [hsamples]
    exact congrArg₂ (fun a b => [a, b]) hold hnew

end ProcessMonitor
