-- What the monitor reports about its own work: a level, the part of the
-- program that speaks, and a line of text; and how that stands in the file.
import ProcessMonitor.Text.Blank
import ProcessMonitor.Text.Fit

namespace ProcessMonitor.Log

/-- How grave a report is, the gravest first. -/
inductive Level where
  | error
  | warn
  | info
  | debug
  | trace
deriving DecidableEq, Repr

namespace Level

/-- A larger rank is a less grave level. -/
def rank : Level → Nat
  | .error => 1
  | .warn => 2
  | .info => 3
  | .debug => 4
  | .trace => 5

def name : Level → String
  | .error => "ERROR"
  | .warn => "WARN"
  | .info => "INFO"
  | .debug => "DEBUG"
  | .trace => "TRACE"

end Level

/-- The part of the program that reports. -/
inductive Topic where
  | program
  | interval
  | requests
  | counters
  | listing
  | sampling
  | control
deriving DecidableEq, Repr

namespace Topic

/-- The path under which a part reports, and by which a filter names it. -/
def path : Topic → String
  | .program => "hitop"
  | .interval => "hitop::app::state"
  | .requests => "hitop::app::process_ops"
  | .counters => "hitop::system::snapshot"
  | .listing => "hitop::system::processes"
  | .sampling => "hitop::system::sampler"
  | .control => "hitop::system::control"

end Topic

/-- One report. -/
structure Entry where
  level : Level
  topic : Topic
  message : String
deriving DecidableEq, Repr

/-- The line of a report in the file. -/
def Entry.line (time : String) (entry : Entry) : String :=
  "[" ++ time ++ " " ++ Text.padRight 5 entry.level.name ++ " " ++ entry.topic.path ++ "] "
    ++ entry.message

/-- The level, the path and the message of a line of the file, if it begins as
the line of a report does. -/
def readLine? (line : String) : Option (String × String × String) :=
  match line.toList with
  | '[' :: rest =>
    let head := rest.takeWhile (· != ']')
    match Text.words head, rest.drop head.length with
    | [_, level, path], ']' :: ' ' :: message =>
      some (String.ofList level, String.ofList path, String.ofList message)
    | _, _ => none
  | _ => none

end ProcessMonitor.Log
