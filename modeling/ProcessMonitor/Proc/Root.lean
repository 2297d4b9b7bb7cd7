-- The files of the host that the monitor reads, as a value, and the reading
-- that they make. What cannot be read counts as zero, and a report tells of it.
import ProcessMonitor.Proc.Counters
import ProcessMonitor.Proc.Listing

namespace ProcessMonitor.Proc

/-- One entry of the directory of processes. -/
structure ProcessEntry where
  /-- The name of the entry. -/
  name : String
  isDirectory : Bool
  uid : Option Nat
  stat : Option String
  cmdline : Option String
deriving DecidableEq

namespace ProcessEntry

/-- An entry and a later one of the same name: what the later one does not tell
stays as it was. -/
def overlay (earlier later : ProcessEntry) : ProcessEntry :=
  { later with
    stat := later.stat.or earlier.stat
    cmdline := later.cmdline.or earlier.cmdline }

/-- The entries by their names, each name once and where it came first. -/
def gather (entries : List ProcessEntry) : List ProcessEntry :=
  let add := fun (known : Std.HashMap String ProcessEntry × List String) (entry : ProcessEntry) =>
    match known.1[entry.name]? with
    | none => (known.1.insert entry.name entry, entry.name :: known.2)
    | some earlier => (known.1.insert entry.name (earlier.overlay entry), known.2)
  let (byName, names) := entries.foldl add (∅, [])
  names.reverse.filterMap (byName[·]?)

end ProcessEntry

/-- The texts of the files. A file that is not there has none. -/
structure Root where
  stat : Option String
  meminfo : Option String
  loadavg : Option String
  hostname : Option String
  users : Nat → UserAnswer
  /-- The entries of the directory of processes, where there is one. -/
  entries : Option (List ProcessEntry)
  /-- Kilobytes of a page. -/
  pageKb : Nat

/-- A reading, the names of users after it and the reports it left. -/
structure Sighting where
  reading : Reading
  owners : Owners
  reports : List Log.Entry

namespace Root

/-! ## The texts -/

def notFound (path : String) : String := "File not found: " ++ path

/-- What is said of a text that cannot be read. -/
def malformed : String := "malformed contents"

/-- Reads a text, or tells why there is nothing to read. -/
def readText {α : Type} (path : String) (text : Option String) (read : List Char → Option α) :
    Except String α :=
  match text with
  | none => .error (notFound path)
  | some text =>
    match read text.toList with
    | some value => .ok value
    | none => .error malformed

/-- What was read, or else a stand-in with a report. -/
def orReport {α : Type} (path : String) (result : Except String α) (standIn : α) :
    α × List Log.Entry :=
  match result with
  | .ok value => (value, [])
  | .error reason =>
    (standIn, [⟨.warn, .counters, "cannot read " ++ path ++ ": " ++ reason⟩])

def statPath : String := "/proc/stat"

def meminfoPath : String := "/proc/meminfo"

def loadavgPath : String := "/proc/loadavg"

/-- The ticks of all processors together and of each. -/
def cpu (root : Root) : (Option Ticks × List Ticks) × List Log.Entry :=
  let read := (readText statPath root.stat readCpu?).map fun (total, cores) => (some total, cores)
  orReport statPath read (none, [])

def memory (root : Root) : Memory × List Log.Entry :=
  orReport meminfoPath (readText meminfoPath root.meminfo readMemory?) Memory.none

def load (root : Root) : Load × List Log.Entry :=
  orReport loadavgPath (readText loadavgPath root.loadavg readLoad?) Load.none

/-! ## The processes -/

/-- The process that an entry gives, when its name is a number. The files of a
process are those under the number itself, however its name writes it, and
without a directory there the entry is an error of the listing. -/
def listed? (entries : List ProcessEntry) (entry : ProcessEntry) :
    Option (Option ListedProcess) :=
  (integer32? entry.name.toList).map fun pid =>
    let named := if entry.name == toString pid then some entry
      else entries.find? (·.name == toString pid)
    (named.filter (·.isDirectory)).map fun directory =>
      { pid
        fields := directory.stat.bind fun text => readProcess? text.toList
        uid := directory.uid
        arguments := directory.cmdline.map fun text => readArguments text.toList }

/-- The listing of the directory of processes. -/
def listing (root : Root) : Except String (List (Option ListedProcess)) :=
  match root.entries with
  | some entries => .ok (entries.filterMap (listed? entries))
  | none => .error (notFound "/proc")

/-! ## The reading -/

/-- Reads the host once: the counters first, the processes after them. -/
def read (root : Root) (owners : Owners) : Sighting :=
  let ((cpu, cores), cpuReports) := root.cpu
  let (memory, memoryReports) := root.memory
  let (load, loadReports) := root.load
  let processes := list (fun uid _ => root.users uid) root.pageKb owners root.listing
  { reading := { cpu, cores, memory, load, processes := processes.records }
    owners := processes.owners
    reports := cpuReports ++ memoryReports ++ loadReports ++ processes.reports }

/-- The name of the host without blanks at its ends, and nothing where it cannot
be read. -/
def hostName (root : Root) : String × List Log.Entry :=
  match root.hostname with
  | some name => (String.ofList (Text.trim name.toList), [])
  | none =>
    ("", [⟨.warn, .counters, "cannot read host name: No such file or directory (os error 2)"⟩])

end Root

end ProcessMonitor.Proc
