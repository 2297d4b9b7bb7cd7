-- One sampling pass: a reading of the host becomes the metrics and the samples
-- that the screen shows, and the baseline of the next pass.
import ProcessMonitor.Host.Reading
import ProcessMonitor.Log.Entry
import ProcessMonitor.Sampling.Baseline

namespace ProcessMonitor

/-- The host as one pass shows it. -/
structure Metrics where
  cpu : Double
  cores : List Double
  memoryTotal : Nat
  memoryUsed : Nat
  memory : Double
  buffers : Nat
  cached : Nat
  swapTotal : Nat
  swapUsed : Nat
  swap : Double
  load : Load
  /-- How many processes the pass lists. -/
  tasks : Nat
deriving DecidableEq

def Metrics.none : Metrics :=
  { cpu := zeroPercent, cores := [], memoryTotal := 0, memoryUsed := 0, memory := zeroPercent,
    buffers := 0, cached := 0, swapTotal := 0, swapUsed := 0, swap := zeroPercent,
    load := Load.none, tasks := 0 }

/-- What one pass gives. -/
structure Pass where
  metrics : Metrics
  samples : List ProcessSample
  /-- The ticks that passed on all processors since the baseline. -/
  elapsed : Nat
deriving DecidableEq

namespace Pass

/-- A process of the reading with its shares. -/
def sampleOf (record : ProcessRecord) (cpu : Double) (memoryTotal : Nat) : ProcessSample :=
  { pid := record.pid
    parent := record.parent
    owner := record.owner
    cpu := cpu
    memory := residentPercent record.residentKb memoryTotal
    virtualKb := record.virtualKb
    residentKb := record.residentKb
    state := record.state
    command := record.command
    priority := record.priority
    nice := record.nice
    threads := record.threads }

/-- Measures processes one after the other and notes their ticks. -/
def measureAll (memoryTotal elapsed : Nat) :
    Baseline → List ProcessRecord → List ProcessSample × Baseline
  | base, [] => ([], base)
  | base, record :: rest =>
    let (cpu, noted) := base.measureProcess record.pid record.ticks elapsed
    let (samples, final) := measureAll memoryTotal elapsed noted rest
    (sampleOf record cpu memoryTotal :: samples, final)

/-- The samples of a reading whose counters were unreadable. No ticks are
noted. -/
def unmeasured (memoryTotal : Nat) (records : List ProcessRecord) : List ProcessSample :=
  records.map fun record => sampleOf record zeroPercent memoryTotal

def metricsOf (reading : Reading) (usage : CpuUsage) (tasks : Nat) : Metrics :=
  { cpu := usage.total
    cores := usage.cores
    memoryTotal := reading.memory.total
    memoryUsed := reading.memory.used
    memory := reading.memory.usedPercent
    buffers := reading.memory.buffers
    cached := reading.memory.cached
    swapTotal := reading.memory.swapTotal
    swapUsed := reading.memory.swapUsed
    swap := reading.memory.swapPercent
    load := reading.load
    tasks := tasks }

/-- Takes one pass. Records whose pid is not positive are no processes. -/
def take (base : Baseline) (reading : Reading) : Pass × Baseline :=
  let (usage, measured) := base.measure reading.cpu reading.cores
  let records := reading.processes.filter fun record => record.pid > 0
  let memoryTotal := reading.memory.total
  let (samples, noted) :=
    if reading.cpu.isSome then measureAll memoryTotal usage.elapsed measured records
    else (unmeasured memoryTotal records, measured)
  (⟨metricsOf reading usage samples.length, samples, usage.elapsed⟩,
    noted.keepOnly (samples.map (·.pid)))

/-- The report that a pass leaves. -/
def report (pass : Pass) : Log.Entry :=
  ⟨.debug, .sampling,
    "sampled " ++ toString pass.samples.length ++ " processes, cpu " ++ pass.metrics.cpu.fixed 1
      ++ "%, tick delta " ++ toString pass.elapsed⟩

end Pass

end ProcessMonitor
