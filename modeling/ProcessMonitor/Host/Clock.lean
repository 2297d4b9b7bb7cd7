-- The time of day from the clock of the host: its start in seconds since 1970
-- and the seconds since then.
import ProcessMonitor.Number.Numeral
import ProcessMonitor.Text.Blank

namespace ProcessMonitor

/-- A number of two digits. -/
def twoDigits (n : Nat) : String := (if n < 10 then "0" else "") ++ toString n

/-- The hours, minutes and seconds of a time in seconds since a midnight. -/
def clockText (seconds : Nat) : String :=
  twoDigits (seconds / 3600 % 24) ++ ":" ++ twoDigits (seconds / 60 % 60) ++ ":"
    ++ twoDigits (seconds % 60)

/-- The start of the host, from the text of its tick counters. -/
def readStart? (stat : String) : Option Nat :=
  (Text.lines stat.toList).findSome? fun line =>
    (Text.after? "btime ".toList line).bind natural64?

/-- The whole seconds since the start, from the text that tells them. -/
def readUptime? (uptime : String) : Option Nat :=
  natural64? (uptime.toList.takeWhile Char.isDigit)

end ProcessMonitor
