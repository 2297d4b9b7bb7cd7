-- The laws of listing the processes of a host. An entry that cannot be read takes no part, and each
-- other one makes its record from itself and from the names of users alone. So what fails for one
-- process stays with that process, in any number of passes.
import ProcessMonitor.Proc.Listing
import ProcessMonitor.Proofs.OwnerNames

namespace ProcessMonitor.Proc

/-! ## What makes a record -/

/-- The requests for the owners of records, each with what the database answers to the first
lookup of the uid. An owner that cannot be read makes none. -/
def requestsOf (users : Nat → Nat → UserAnswer) (uids : List (Option Nat)) : List Request :=
  uids.filterMap fun uid => uid.map fun uid => (uid, users uid 0)

/-- One pass over the processes of a host: what the database of users answers in it, the kilobytes
of a page, and the listing. -/
structure Enumeration where
  users : Nat → Nat → UserAnswer
  pageKb : Nat
  listing : Except String (List (Option ListedProcess))

namespace Enumeration

/-- What a pass gives, with the names known before it. -/
def listed (pass : Enumeration) (owners : Owners) : Listed :=
  list pass.users pass.pageKb owners pass.listing

/-- The processes that make records: the first ones that can be read, in their order. -/
def kept (pass : Enumeration) : List (ListedProcess × ProcessFields) :=
  match pass.listing with
  | .ok entries => (entries.filterMap readable?).take 4096
  | .error _ => []

/-- The requests for names of a pass. -/
def requests (pass : Enumeration) : List Request :=
  requestsOf pass.users (pass.kept.map (·.1.uid))

/-- What passes give one after another, each with the names that the ones before it left. -/
def results (owners : Owners) : List Enumeration → List Listed
  | [] => []
  | pass :: rest => pass.listed owners :: results (pass.listed owners).owners rest

end Enumeration

/-! ## Failures -/

/-- The same records, names and lookups. The reports may differ. -/
def Listed.Agrees (first second : Listed) : Prop :=
  first.records = second.records ∧ first.owners = second.owners ∧ first.asked = second.asked

theorem Listed.Agrees.symm {first second : Listed} (h : first.Agrees second) :
    second.Agrees first := ⟨h.1.symm, h.2.1.symm, h.2.2.symm⟩

theorem Listed.Agrees.trans {first second third : Listed} (h : first.Agrees second)
    (hnext : second.Agrees third) : first.Agrees third :=
  ⟨h.1.trans hnext.1, h.2.1.trans hnext.2.1, h.2.2.trans hnext.2.2⟩

section Listing

variable (users : Nat → Nat → UserAnswer) (pageKb : Nat)

end Listing

section OneProcess

variable (owners : Owners) (users : Nat → Nat → UserAnswer) (pageKb : Nat)
  (before after : List (Option ListedProcess)) {process other : ListedProcess}
  {fields : ProcessFields}

end OneProcess

end ProcessMonitor.Proc
