-- The state of the monitor between two frames, and what a pass, a change of the
-- interval and a request do to it.
import ProcessMonitor.History.Series
import ProcessMonitor.Number.Fixed
import ProcessMonitor.Process.Control
import ProcessMonitor.Sampling.Pass
import ProcessMonitor.Session.Mode
import ProcessMonitor.Table.Basic

namespace ProcessMonitor

/-- The table, the histories and the metrics are always replaced together, so
one frame never mixes two passes. -/
structure Session where
  baseline : Baseline
  table : Table
  history : History
  metrics : Metrics
  mode : Mode
  /-- A message that stays until the next key. -/
  status : Option String
  /-- Milliseconds between two passes. -/
  interval : Nat
  hostname : String

/-- What a step of a session does: the session after it, the requests it made,
in order, and the reports it left. -/
structure Effect where
  session : Session
  requests : List Request := []
  reports : List Log.Entry := []

namespace Session

def defaultInterval : Nat := 1000

def minInterval : Nat := 250

def maxInterval : Nat := 10000

/-- A session that has seen no pass yet. -/
def start (column : SortColumn) (descending : Bool) (filter : String) (interval : Nat) : Session :=
  { baseline := Baseline.empty
    table := Table.empty column descending filter
    history := History.empty
    metrics := Metrics.none
    mode := .normal
    status := none
    interval
    hostname := "" }

/-- A session as it starts without any wishes: by use of the processors, the
busiest first. -/
def default : Session := start .cpu true "" defaultInterval

/-! ## A pass -/

/-- Takes a reading of the host and replaces all that is shown with it. -/
def refresh (s : Session) (reading : Reading) : Effect :=
  let (pass, baseline) := Pass.take s.baseline reading
  { session :=
      { s with
        baseline
        history := s.history.record pass.metrics.cpu pass.metrics.memory pass.metrics.cores
        table := s.table.update pass.samples
        metrics := pass.metrics }
    reports := [pass.report] }

/-! ## The interval -/

/-- The next longer interval. -/
def longerInterval (ms : Nat) : Nat :=
  if ms ≥ 5000 then maxInterval
  else if ms ≥ 2000 then 5000
  else if ms ≥ 1000 then 2000
  else if ms ≥ 500 then 1000
  else 500

/-- The next shorter interval. -/
def shorterInterval (ms : Nat) : Nat :=
  if ms ≤ 500 then minInterval
  else if ms ≤ 1000 then 500
  else if ms ≤ 2000 then 1000
  else if ms ≤ 5000 then 2000
  else 5000

/-- The interval in seconds from one second on, and in milliseconds below. -/
def intervalText (s : Session) : String :=
  if s.interval ≥ 1000 then (Double.ofNat s.interval / 1000).fixed 1 ++ "s"
  else toString s.interval ++ "ms"

/-- Sets the interval and tells of it. -/
def setInterval (s : Session) (ms : Nat) : Effect :=
  let s := { s with interval := ms }
  { session := { s with status := some ("Refresh interval: " ++ s.intervalText) }
    reports := [⟨.info, .interval, "refresh interval set to " ++ toString ms ++ "ms"⟩] }

def slower (s : Session) : Effect := s.setInterval (longerInterval s.interval)

def faster (s : Session) : Effect := s.setInterval (shorterInterval s.interval)

/-! ## Requests -/

/-- Asks whether to end the selected process. Which one it is stays fixed from
here on, whatever the list does. -/
def requestKill (s : Session) : Session :=
  match s.table.selected? with
  | none => s
  | some process => { s with mode := .confirmKill process.pid process.command }

/-- Ends the process that was asked about, and goes back to the list. -/
def confirmKill (s : Session) (control : Controller) : Effect :=
  match s.mode with
  | .confirmKill pid _ =>
    let back := { s with mode := .normal }
    let answer := control.terminate pid
    match answer.result with
    | .ok () =>
      { session := { back with status := some ("Sent SIGTERM to PID " ++ toString pid) }
        requests := [.terminate pid]
        reports := answer.reports }
    | .error e =>
      { session := { back with status := some ("Kill failed: " ++ e.message) }
        requests := [.terminate pid]
        reports := answer.reports
          ++ [⟨.warn, .requests, "terminate " ++ toString pid ++ " failed: " ++ e.message⟩] }
  | _ => { session := { s with mode := .normal } }

def cancelKill (s : Session) : Session := { s with mode := .normal }

/-- Changes the priority of the selected process. -/
def renice (s : Session) (control : Controller) (delta : Int) : Effect :=
  match s.table.selected? with
  | none => { session := s }
  | some process =>
    let pid := process.pid
    let answer := control.renice pid delta
    match answer.result with
    | .ok nice =>
      { session := { s with status := some ("PID " ++ toString pid ++ ": nice "
          ++ toString process.nice ++ " → " ++ toString nice) }
        requests := [.renice pid delta]
        reports := answer.reports }
    | .error e =>
      { session := { s with status := some ("Renice failed: " ++ e.message) }
        requests := [.renice pid delta]
        reports := answer.reports ++ [⟨.warn, .requests, "renice " ++ toString pid ++ " by "
          ++ toString delta ++ " failed: " ++ e.message⟩] }

/-- By how much one key changes a priority. -/
def reniceStep : Int := 1

def raisePriority (s : Session) (control : Controller) : Effect := s.renice control reniceStep

def lowerPriority (s : Session) (control : Controller) : Effect := s.renice control (-reniceStep)

end Session

end ProcessMonitor
