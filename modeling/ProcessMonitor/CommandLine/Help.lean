-- The text that explains the command line.
import ProcessMonitor.Screen.Bar

namespace ProcessMonitor.CommandLine

/-- The name of the command. -/
def commandName : String := "hitop"

/-- The usage in one line. -/
def usage : String := "Usage: " ++ commandName ++ " [OPTIONS]"

/-- Lines, each with a line break behind it. -/
def unlines (lines : List String) : String := String.join (lines.map (· ++ "\n"))

/-- What is printed for the version. -/
def versionText : String := unlines [commandName ++ " " ++ Screen.version]

/-- What is printed for help. -/
def helpText : String := unlines
  ["An interactive terminal process monitor for Linux built on /proc",
   "",
   usage,
   "",
   "Options:",
   "  -d, --delay <MS>       Refresh interval in milliseconds (250-10000) [default: 1000]",
   "  -s, --sort <COLUMN>    Initial sort column: pid, user, cpu, mem, command, priority "
     ++ "[default: cpu]",
   "  -a, --ascending        Sort in ascending order (default is descending)",
   "  -f, --filter <TEXT>    Initial filter matched against command and user",
   "      --log-file <PATH>  Write diagnostics to this file (also read from HITOP_LOG)",
   "  -h, --help             Print help",
   "  -V, --version          Print version",
   "",
   "CONTROLS:",
   "    q           Quit",
   "    Up/k Down/j Move selection",
   "    PgUp/PgDn   Move by a page",
   "    Home/End    Jump to first/last",
   "    s / F6      Cycle sort column",
   "    r           Reverse sort order",
   "    f or /      Filter by command or user",
   "    c           Clear filter",
   "    x / Del     Send SIGTERM (asks first)",
   "    + / -       Raise / lower priority",
   "    [ / ]       Slow down / speed up refresh",
   "    h / ?       Help"]

end ProcessMonitor.CommandLine
