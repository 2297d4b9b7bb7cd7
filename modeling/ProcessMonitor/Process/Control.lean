-- Ending a process and changing its priority. The kernel is a parameter: each
-- of its calls answers with a value and perhaps a refusal, and what is asked of
-- it is kept in order.
import ProcessMonitor.Log.Entry
import ProcessMonitor.Process.Errno

namespace ProcessMonitor

/-! ## Errors -/

/-- The calls that may fail. -/
inductive KernelCall where
  | kill
  | getPriority
  | setPriority
deriving DecidableEq, Repr

def KernelCall.name : KernelCall → String
  | .kill => "kill"
  | .getPriority => "getpriority"
  | .setPriority => "setpriority"

/-- Why a request failed. -/
inductive ControlError where
  | notFound (pid : Int)
  | permissionDenied (pid : Int)
  /-- Zero and negative pids would address whole groups. -/
  | invalidTarget (pid : Int)
  | refused (call : KernelCall) (pid : Int) (errno : Errno)
deriving DecidableEq, Repr

namespace ControlError

/-- What a refused call means for the process. -/
def ofErrno (call : KernelCall) (pid : Int) (errno : Errno) : ControlError :=
  if errno = Errno.noSuchProcess then .notFound pid
  else if errno = Errno.notPermitted ∨ errno = Errno.accessDenied then .permissionDenied pid
  else .refused call pid errno

def message : ControlError → String
  | .notFound pid => "process " ++ toString pid ++ " not found or has terminated"
  | .permissionDenied pid => "permission denied for process " ++ toString pid
  | .invalidTarget pid => "invalid target pid " ++ toString pid
  | .refused call pid errno =>
    call.name ++ " failed for process " ++ toString pid ++ ": " ++ errno.message

end ControlError

/-! ## Requests and their answers -/

/-- What the monitor may ask for. -/
inductive Request where
  | terminate (pid : Int)
  /-- A positive delta raises the priority. -/
  | renice (pid delta : Int)
deriving DecidableEq, Repr

/-- The outcome of a request with the reports that it left. -/
structure Answer (α : Type) where
  result : Except ControlError α
  reports : List Log.Entry := []

/-- Whoever carries out requests. A change of priority answers with the nice
value that was asked for. -/
structure Controller where
  terminate : Int → Answer Unit
  renice : Int → Int → Answer Int

/-! ## Nice values -/

def niceMin : Int := -20

def niceMax : Int := 19

/-- The smallest and the largest number that a nice value is computed in. -/
def lastNice : Int := 2147483647

/-- The nice value to ask for: a higher priority is a lower nice value, kept in
the range that the kernel takes. -/
def targetNice (current delta : Int) : Int :=
  let wanted := max (-lastNice - 1) (min (current - delta) lastNice)
  max niceMin (min wanted niceMax)

/-! ## The kernel -/

/-- What a call of the kernel returns: a value, and the refusal it names, if
any. -/
structure KernelAnswer where
  value : Int
  errno : Option Errno
deriving DecidableEq, Repr

/-- The answers of the kernel to the calls made here. -/
structure Kernel where
  /-- The pid and the number of the signal. -/
  kill : Int → Int → KernelAnswer
  getPriority : Int → KernelAnswer
  /-- The pid and the nice value. -/
  setPriority : Int → Int → KernelAnswer

/-- A call as the kernel sees it. -/
inductive IssuedCall where
  | kill (pid signal : Int)
  | getPriority (pid : Int)
  | setPriority (pid nice : Int)
deriving DecidableEq, Repr

/-- A request carried out: its answer and the calls made for it, in order. -/
structure Handled (α : Type) where
  answer : Answer α
  calls : List IssuedCall

/-! ## The thread that makes the calls -/

/-- What is kept for a thread: the number of the last refusal and the calls in
order. -/
structure Thread where
  errno : Errno
  calls : List IssuedCall := []

namespace Thread

/-- Forgets the last refusal. -/
def clear (thread : Thread) : Thread := { thread with errno := .unknown }

/-- A call was answered. An answer that names no refusal leaves the number that
is kept. -/
def after (thread : Thread) (call : IssuedCall) (answer : KernelAnswer) : Thread :=
  ⟨answer.errno.getD thread.errno, thread.calls ++ [call]⟩

/-- What the number that is kept is read as. -/
def refusal (thread : Thread) : Errno := thread.errno.known

end Thread

namespace Kernel

/-- The answer to a call. -/
def answer (kernel : Kernel) : IssuedCall → KernelAnswer
  | .kill pid signal => kernel.kill pid signal
  | .getPriority pid => kernel.getPriority pid
  | .setPriority pid nice => kernel.setPriority pid nice

/-- The number of the signal that asks a process to end. -/
def terminateSignal : Int := 15

/-- Asks a process to end, in a thread with this number kept from its calls
before. -/
def terminate (kernel : Kernel) (pid : Int) (kept : Errno := .unknown) : Handled Unit :=
  if pid ≤ 0 then ⟨⟨.error (.invalidTarget pid), []⟩, []⟩
  else
    let kill := IssuedCall.kill pid terminateSignal
    let sent := kernel.answer kill
    let thread := Thread.after ⟨kept, []⟩ kill sent
    if sent.value = -1 then
      ⟨⟨.error (.ofErrno .kill pid thread.refusal), []⟩, thread.calls⟩
    else
      ⟨⟨.ok (), [⟨.debug, .control, "sent SIGTERM to " ++ toString pid⟩]⟩, thread.calls⟩

/-- Changes the priority of a process by `delta` steps. A nice value of -1 is an
answer like any other; only a refusal that the kernel names is a failure of the
first call, so none may be kept from before. -/
def renice (kernel : Kernel) (pid delta : Int) (kept : Errno := .unknown) : Handled Int :=
  if pid ≤ 0 then ⟨⟨.error (.invalidTarget pid), []⟩, []⟩
  else
    let get := IssuedCall.getPriority pid
    let found := kernel.answer get
    let thread := (Thread.clear ⟨kept, []⟩).after get found
    if thread.refusal ≠ Errno.unknown then
      ⟨⟨.error (.ofErrno .getPriority pid thread.refusal), []⟩, thread.calls⟩
    else
      let wanted := targetNice found.value delta
      let set := IssuedCall.setPriority pid wanted
      let done := kernel.answer set
      let thread := thread.after set done
      if done.value ≠ 0 then
        ⟨⟨.error (.ofErrno .setPriority pid thread.refusal), []⟩, thread.calls⟩
      else
        ⟨⟨.ok wanted, [⟨.debug, .control, "reniced " ++ toString pid ++ " from "
          ++ toString found.value ++ " to " ++ toString wanted⟩]⟩, thread.calls⟩

/-- The kernel as the one who carries out requests. -/
def controller (kernel : Kernel) : Controller :=
  ⟨fun pid => (kernel.terminate pid).answer, fun pid delta => (kernel.renice pid delta).answer⟩

end Kernel

end ProcessMonitor
