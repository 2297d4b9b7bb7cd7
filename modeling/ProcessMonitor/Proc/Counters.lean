-- The texts in which the kernel tells its counters: ticks of the processors,
-- memory, and load.
import ProcessMonitor.Host.Reading
import ProcessMonitor.Number.Numeral
import ProcessMonitor.Text.Blank

namespace ProcessMonitor.Proc

/-! ## Ticks -/

/-- The numbers of a line of ticks. Ten are read at most; further ones are not
looked at. -/
def tickNumbers? (line : List Char) : Option (List Nat) :=
  (((Text.words line).drop 1).take 10).mapM natural64?

/-- Ticks from their numbers. Kernels of old give four; what they lack is 0. -/
def ticksOf? : List Nat → Option Ticks
  | user :: nice :: system :: idle :: rest =>
    some ⟨user, nice, system, idle, rest.getD 0 0, rest.getD 1 0, rest.getD 2 0, rest.getD 3 0⟩
  | _ => none

/-- Reads a line of ticks. -/
def readTicks? (line : List Char) : Option Ticks := (tickNumbers? line).bind ticksOf?

/-- What the lines of the tick counters have told so far. -/
structure TickLines where
  total : Option Ticks := none
  cores : List Ticks := []
  hasSwitches : Bool := false
  hasBootTime : Bool := false
  hasForks : Bool := false

/-- Takes one more line. Lines of unknown kinds say nothing. -/
def TickLines.add? (seen : TickLines) (line : List Char) : Option TickLines :=
  if (Text.after? "cpu ".toList line).isSome then
    (readTicks? line).map fun ticks => { seen with total := some ticks }
  else if (Text.after? "cpu".toList line).isSome then
    (readTicks? line).map fun ticks => { seen with cores := seen.cores ++ [ticks] }
  else if let some number := Text.after? "ctxt ".toList line then
    (natural64? number).map fun _ => { seen with hasSwitches := true }
  else if let some number := Text.after? "btime ".toList line then
    (natural64? number).map fun _ => { seen with hasBootTime := true }
  else if let some number := Text.after? "processes ".toList line then
    (natural64? number).map fun _ => { seen with hasForks := true }
  else if let some number := Text.after? "procs_running ".toList line then
    (natural32? number).map fun _ => seen
  else if let some number := Text.after? "procs_blocked ".toList line then
    (natural32? number).map fun _ => seen
  else some seen

/-- Reads the ticks of all processors together and of each one. A text without
the counts of switches, forks and the boot time is not whole. -/
def readCpu? (text : List Char) : Option (Ticks × List Ticks) := do
  let seen ← (Text.lines text).foldlM TickLines.add? {}
  let total ← seen.total
  if seen.hasSwitches && seen.hasBootTime && seen.hasForks then some (total, seen.cores) else none

/-! ## Memory -/

/-- How many bytes a unit of memory has. -/
def unitBytes? (unit : String) : Option Nat :=
  if unit == "B" then some 1
  else if ["KiB", "kiB", "kB", "KB"].contains unit then some 1024
  else if ["MiB", "miB", "MB", "mB"].contains unit then some (1024 * 1024)
  else if ["GiB", "giB", "GB", "gB"].contains unit then some (1024 * 1024 * 1024)
  else none

/-- Reads one line of the memory counters: a name that ends in a colon, a
number, and perhaps a unit. -/
def readMemoryLine? (line : List Char) : Option (String × Nat) :=
  match Text.words line with
  | name :: number :: rest => do
    let count ← natural64? number
    let bytes ← match rest with
      | [] => some 1
      | unit :: _ => unitBytes? (String.ofList unit)
    some (String.ofList name.dropLast, count * bytes)
  | _ => none

/-- The counters that every kernel tells. -/
def requiredMemory : List String :=
  ["MemTotal", "MemFree", "Buffers", "Cached", "SwapCached", "Active", "Inactive", "SwapTotal",
   "SwapFree", "Dirty", "Writeback", "Mapped", "Slab", "Committed_AS", "VmallocTotal",
   "VmallocUsed", "VmallocChunk"]

/-- The bytes under a name; the last line of that name counts. -/
def memoryBytes? (entries : List (String × Nat)) (name : String) : Option Nat :=
  entries.reverse.lookup name

/-- Reads the memory counters, which are kept in whole kilobytes. -/
def readMemory? (text : List Char) : Option Memory := do
  let entries ← ((Text.lines text).filter (!·.isEmpty)).mapM readMemoryLine?
  if requiredMemory.all fun name => (memoryBytes? entries name).isSome then
    let kb := fun name => ((memoryBytes? entries name).getD 0) / 1024
    some
      { total := kb "MemTotal"
        free := kb "MemFree"
        available := (memoryBytes? entries "MemAvailable").map (· / 1024)
        buffers := kb "Buffers"
        cached := kb "Cached"
        swapTotal := kb "SwapTotal"
        swapFree := kb "SwapFree" }
  else none

/-! ## Load -/

def readLoadNumber? (text : List Char) : Option Double :=
  (Decimal.read? text).map Decimal.toShortDouble

/-- True for a count of running threads, a slash and a count of all. -/
def isThreadCount (text : List Char) : Bool :=
  match Text.splitAt (· == '/') text with
  | running :: all :: _ => (natural32? running).isSome && (natural32? all).isSome
  | _ => false

/-- Reads the three averages. The thread counts and the last pid have to follow
them. -/
def readLoad? (text : List Char) : Option Load :=
  match Text.words text with
  | one :: five :: fifteen :: threads :: last :: _ => do
    let one ← readLoadNumber? one
    let five ← readLoadNumber? five
    let fifteen ← readLoadNumber? fifteen
    if isThreadCount threads && (natural32? last).isSome then some ⟨one, five, fifteen⟩ else none
  | _ => none

end ProcessMonitor.Proc
