-- The users of the host from the text that lists them, one in a line, and the
-- user of a process from the text of its status.
import ProcessMonitor.Number.Numeral
import ProcessMonitor.Proc.Owners
import ProcessMonitor.Process.Errno
import ProcessMonitor.Text.Blank

namespace ProcessMonitor.Proc

/-- Reads a line of the list of users: a name, a password and a uid between
colons. -/
def readUser? (line : List Char) : Option (Nat × String) :=
  match Text.splitAt (· == ':') line with
  | name :: _ :: uid :: _ => (natural32? uid).map fun uid => (uid, String.ofList name)
  | _ => none

/-- A name is told only up to this many bytes. -/
def maxNameBytes : Nat := 1023

/-- What the list of users says to a uid; the first line with the uid counts. A
list that is not there cannot be asked. -/
def usersOf (text : Option String) (uid : Nat) : UserAnswer :=
  match text with
  | none => .failed Errno.noSuchFile.message
  | some text =>
    match ((Text.lines text.toList).filterMap readUser?).lookup uid with
    | some name => if name.utf8ByteSize ≤ maxNameBytes then .named name else .unnamed
    | none => .unnamed

/-- The uid for which a process acts, from the text of its status. -/
def readUid? (status : String) : Option Nat :=
  (Text.lines status.toList).findSome? fun line =>
    match (Text.after? "Uid:".toList line).map Text.words with
    | some (_ :: acting :: _) => natural32? acting
    | _ => none

end ProcessMonitor.Proc
