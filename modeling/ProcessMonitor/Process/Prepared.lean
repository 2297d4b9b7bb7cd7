-- A controller with its answers set out beforehand, for sessions without a
-- kernel.
import ProcessMonitor.Process.Control

namespace ProcessMonitor.Controller

/-- The answer to the request that comes after `earlier` others: the one set out
for its place, or success with the nice value that `niceAfter` gives for the
pid and the delta. -/
def prepared (results : List (Int → Except ControlError Int)) (niceAfter : Int → Int → Int)
    (earlier : Nat) : Controller :=
  let answer := fun (pid nice : Int) =>
    (results[earlier]?.map fun result => result pid).getD (.ok nice)
  { terminate := fun pid => ⟨(answer pid 0).map fun _ => (), []⟩
    renice := fun pid delta => ⟨answer pid (niceAfter pid delta), []⟩ }

end ProcessMonitor.Controller
