-- All processes of the host as records. A process that cannot be read takes no
-- part and changes nothing else, and the listing stops at a fixed count.
import ProcessMonitor.Proc.Owners
import ProcessMonitor.Proc.Process

namespace ProcessMonitor.Proc

/-- One process of the listing: the pid of its directory, and what of it can be
read. -/
structure ListedProcess where
  pid : Int
  fields : Option ProcessFields
  uid : Option Nat
  arguments : Option (List String)
deriving DecidableEq

/-- What a listing gives: the records, the names of users after it, the uids
looked up and the reports, in order. -/
structure Listed where
  records : List ProcessRecord
  owners : Owners
  asked : List Nat
  reports : List Log.Entry

/-- How many records a listing gives at most. -/
def maxProcesses : Nat := 4096

/-- The owner of a process whose owner cannot be read. -/
def unknownOwner : String := "unknown"

/-- The owner of a process. -/
def ownerOf (owners : Owners) (users : Nat → UserAnswer) : Option Nat → Named
  | some uid => owners.nameFor users uid
  | none => ⟨unknownOwner, owners, [], []⟩

/-- A count in 64 bits. -/
def wrap64 (count : Nat) : Nat := count % Nat.pow 2 64

/-- A record from its fields, where a page has `pageKb` kilobytes. -/
def recordOf (fields : ProcessFields) (owner : String) (arguments : Option (List String))
    (pageKb : Nat) : ProcessRecord :=
  { pid := fields.pid
    parent := fields.parent
    owner
    name := fields.name
    cmdline := String.intercalate " " (arguments.getD [])
    state := fields.state
    ticks := wrap64 (fields.userTicks + fields.systemTicks)
    virtualKb := fields.virtualBytes / 1024
    residentKb := wrap64 (fields.residentPages * pageKb)
    priority := fields.priority
    nice := fields.nice
    threads := fields.threads }

/-- The fields of an entry that is a process and can be read. -/
def readable? (entry : Option ListedProcess) : Option (ListedProcess × ProcessFields) := do
  let process ← entry
  if process.pid ≤ 0 then none else process.fields.map (process, ·)

/-- The report of a listing that was cut off. -/
def capReport : Log.Entry :=
  ⟨.debug, .listing, "process cap of " ++ toString maxProcesses ++ " reached, ignoring the rest"⟩

/-- The records of the rest of a listing of which `made` records are made and for which the
uids `asked` were looked up. An entry is none where the host gave an error for it. The
database of users may change or fail between two lookups: `users uid n` is what it answers
to the lookup of `uid` that `n` others of that uid came before. -/
def listFrom (users : Nat → Nat → UserAnswer) (pageKb : Nat) :
    Nat → List Nat → Owners → List (Option ListedProcess) → Listed
  | _, _, owners, [] => ⟨[], owners, [], []⟩
  | made, asked, owners, entry :: rest =>
    if made ≥ maxProcesses then ⟨[], owners, [], [capReport]⟩
    else
      match readable? entry with
      | none => listFrom users pageKb made asked owners rest
      | some (process, fields) =>
        let owner := ownerOf owners (fun uid => users uid (asked.count uid)) process.uid
        let more := listFrom users pageKb (made + 1) (asked ++ owner.asked) owner.owners rest
        ⟨recordOf fields owner.name process.arguments pageKb :: more.records, more.owners,
          owner.asked ++ more.asked, owner.reports ++ more.reports⟩

/-- The records of a listing, or none with a report of why there is no
listing. -/
def list (users : Nat → Nat → UserAnswer) (pageKb : Nat) (owners : Owners)
    (listing : Except String (List (Option ListedProcess))) : Listed :=
  match listing with
  | .ok entries => listFrom users pageKb 0 [] owners entries
  | .error reason => ⟨[], owners, [], [⟨.warn, .listing, "cannot list /proc: " ++ reason⟩]⟩

end ProcessMonitor.Proc
