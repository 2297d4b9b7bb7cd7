-- The texts in which the kernel tells of one process: a line of fields and the
-- command line.
import ProcessMonitor.Number.Numeral
import ProcessMonitor.Process.Record
import ProcessMonitor.Text.Blank

namespace ProcessMonitor.Proc

/-- The fields of a process that the monitor uses. -/
structure ProcessFields where
  pid : Int
  name : String
  state : Char
  parent : Int
  /-- Ticks in user code. -/
  userTicks : Nat
  /-- Ticks in kernel code. -/
  systemTicks : Nat
  priority : Int
  nice : Int
  threads : Int
  /-- Bytes of address space. -/
  virtualBytes : Nat
  residentPages : Nat
deriving DecidableEq, Repr

/-- The part of a text in front of the last closing parenthesis, and the part
behind it. -/
def splitAtLastClose? (text : List Char) : Option (List Char × List Char) :=
  let behind := text.reverse.takeWhile (· != ')')
  match text.reverse.dropWhile (· != ')') with
  | [] => none
  | _ :: front => some (front.reverse, behind.reverse)

/-- The kinds of numbers in the line of fields. -/
inductive FieldKind where
  | integer32
  | natural32
  | integer64
  | natural64
deriving DecidableEq, Repr

/-- True for the texts of a number of the kind. -/
def FieldKind.holds (text : List Char) : FieldKind → Bool
  | .integer32 => (integer32? text).isSome
  | .natural32 => (natural32? text).isSome
  | .integer64 => (integer64? text).isSome
  | .natural64 => (natural64? text).isSome

/-- The fields behind the state that every line has. -/
def requiredKinds : List FieldKind :=
  List.replicate 5 .integer32 ++ [.natural32] ++ List.replicate 6 .natural64
    ++ List.replicate 6 .integer64 ++ List.replicate 18 .natural64

/-- The fields behind those, which newer kernels added one after the other. -/
def laterKinds : List FieldKind :=
  [.integer32, .integer32, .natural32, .natural32, .natural64, .natural64, .integer64]
    ++ List.replicate 7 .natural64 ++ [.integer32]

/-- True when the fields behind the state are all there and of their kinds. -/
def areFields (fields : List (List Char)) : Bool :=
  requiredKinds.length ≤ fields.length
    && (fields.zip (requiredKinds ++ laterKinds)).all fun (text, kind) => kind.holds text

/-- Reads the fields behind the name: the state, and numbers. -/
def readFields? (pid : Int) (name : List Char) (fields : List (List Char)) :
    Option ProcessFields := do
  let state ← (← fields[0]?).head?
  if !areFields (fields.drop 1) then none
  else
    some
      { pid
        name := String.ofList name
        state
        parent := ← (← fields[1]?) |> integer32?
        userTicks := ← (← fields[11]?) |> natural64?
        systemTicks := ← (← fields[12]?) |> natural64?
        priority := ← (← fields[15]?) |> integer64?
        nice := ← (← fields[16]?) |> integer64?
        threads := ← (← fields[17]?) |> integer64?
        virtualBytes := ← (← fields[20]?) |> natural64?
        residentPages := ← (← fields[21]?) |> natural64? }

/-- Reads the line of fields. The name is all that stands between the first
opening and the last closing parenthesis, so it may hold parentheses and
blanks. -/
def readProcess? (text : List Char) : Option ProcessFields := do
  let text := Text.trim text
  let pid := text.takeWhile (· != '(')
  let (name, fields) ← splitAtLastClose? ((text.dropWhile (· != '(')).drop 1)
  readFields? (← integer32? pid.dropLast) name (Text.splitAt (· == ' ') (fields.drop 1))

/-- The arguments of a command line: what stands between its zeros, without the
empty ones. -/
def readArguments (text : List Char) : List String :=
  ((Text.splitAt (· == '\x00') text).filter (!·.isEmpty)).map String.ofList

end ProcessMonitor.Proc
