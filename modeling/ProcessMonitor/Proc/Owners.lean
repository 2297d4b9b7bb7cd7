-- The names of users. Every answer is remembered, so one uid is never looked up
-- twice and never changes its name.
import Std.Data.HashMap
import ProcessMonitor.Log.Entry

namespace ProcessMonitor.Proc

/-- What the database of users says to a uid. -/
inductive UserAnswer where
  | named (name : String)
  | unnamed
  /-- The database could not be asked, and why. -/
  | failed (reason : String)
deriving DecidableEq, Repr

/-- The names given so far. -/
structure Owners where
  names : Std.HashMap Nat String

/-- A name, the names given after it, the uids looked up for it and the reports
it left. -/
structure Named where
  name : String
  owners : Owners
  asked : List Nat
  reports : List Log.Entry

namespace Owners

def empty : Owners := ⟨∅⟩

/-- The name for a uid, or its number. -/
def nameFor (owners : Owners) (users : Nat → UserAnswer) (uid : Nat) : Named :=
  match owners.names[uid]? with
  | some name => ⟨name, owners, [], []⟩
  | none =>
    let (name, reports) : String × List Log.Entry :=
      match users uid with
      | .named name => (name, [])
      | .unnamed => (toString uid, [])
      | .failed reason =>
        (toString uid,
          [⟨.debug, .listing, "passwd lookup for uid " ++ toString uid ++ " failed: " ++ reason⟩])
    ⟨name, ⟨owners.names.insert uid name⟩, [uid], reports⟩

end Owners

end ProcessMonitor.Proc
