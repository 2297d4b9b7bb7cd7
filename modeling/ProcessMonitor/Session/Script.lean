-- A session over any mixture of keys, passes and changes of the window, with
-- all requests and reports in order.
import ProcessMonitor.Session.Press

namespace ProcessMonitor

/-- One thing that happens to a session. -/
inductive Happening where
  | key (control : Controller) (key : Key)
  | pass (reading : Reading)
  | resize (rows : Nat)

namespace Session

/-- What a happening does. -/
def after (s : Session) : Happening → Effect
  | .key control key => (s.press control key).1
  | .pass reading => s.refresh reading
  | .resize rows => { session := { s with table := s.table.setRows rows } }

/-- What happenings do one after the other. -/
def run (s : Session) : List Happening → Effect
  | [] => { session := s }
  | happening :: rest =>
    let first := s.after happening
    let more := first.session.run rest
    { session := more.session
      requests := first.requests ++ more.requests
      reports := first.reports ++ more.reports }

end Session

end ProcessMonitor
