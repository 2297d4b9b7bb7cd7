-- Reading the command line from left to right; the first error ends it. The
-- value of an option that stands by itself is looked at only when the next
-- option or the end is reached, so an unknown argument in between comes first.
import ProcessMonitor.CommandLine.Options
import ProcessMonitor.CommandLine.Refusal
import ProcessMonitor.Number.Numeral

namespace ProcessMonitor.CommandLine

/-- What the options given so far ask for, and one that stands by itself with the
value that followed it, if one did. -/
structure Progress where
  options : Options := .default
  /-- The options given, the first one first. -/
  given : List Argument := []
  pending : Option (Setting × Option String) := none

namespace Progress

/-- Reads a value of a setting. -/
def store (options : Options) (setting : Setting) (value : String) : Except Refusal Options :=
  match setting with
  | .delay =>
    match readNatural largestUnsigned64 value.toList with
    | .ok n => .ok { options with delay := n }
    | .error fault => .error (.invalidValue .delay value fault.message)
  | .sort =>
    match SortColumn.read value with
    | .ok column => .ok { options with sort := column }
    | .error reason => .error (.invalidValue .sort value reason)
  | .filter => .ok { options with filter := some value }
  | .logFile =>
    if value.isEmpty then .error (.missingValue .logFile)
    else .ok { options with logFile := some value }

/-- Gives a setting its value; it may have one only. -/
def give (p : Progress) (setting : Setting) (value : Option String) : Except Refusal Progress :=
  match value with
  | none => .error (.missingValue setting)
  | some value =>
    if p.given.contains (.inl setting) then .error (.repeated setting.shown)
    else (store p.options setting value).map fun options =>
      { p with options, given := p.given ++ [.inl setting] }

/-- Looks at the value that still waits. -/
def settle (p : Progress) : Except Refusal Progress :=
  match p.pending with
  | none => .ok p
  | some (setting, value) => { p with pending := none }.give setting value

/-- The options given when the command line ends early. One that waits with its
value counts, whatever the value is; given a second time, it counts no more. -/
def givenAtLast (p : Progress) : List Argument :=
  match p.pending with
  | some (setting, some _) =>
    if p.given.contains (.inl setting) then p.given.erase (.inl setting)
    else p.given ++ [.inl setting]
  | _ => p.given

/-- Takes an option without a value. -/
def raise (p : Progress) (flag : Flag) : Except Refusal Progress := do
  let p ← p.settle
  match flag with
  | .help => .error .help
  | .version => .error .version
  | .ascending =>
    if p.given.contains (.inr .ascending) then .error (.repeated Flag.ascending.shown)
    else
      .ok { p with
        options := { p.options with ascending := true }
        given := p.given ++ [.inr .ascending] }

/-- Takes an option whose value stands right behind it, or else waits for the
value. -/
def take (p : Progress) (setting : Setting) (attached : Option String) :
    Except Refusal Progress := do
  let p ← p.settle
  match attached with
  | some value => p.give setting (some value)
  | none => .ok { p with pending := some (setting, none) }

/-- Takes the letters of one argument behind its dash. -/
def takeLetters (p : Progress) : List Char → Except Refusal Progress
  | [] => .ok p
  | letter :: rest =>
    match shortArgument? letter with
    | none => .error (.unknownArgument ("-" ++ String.singleton letter) none [])
    | some (.inr flag) => do (← p.raise flag).takeLetters rest
    | some (.inl setting) =>
      match rest with
      | [] => p.take setting none
      | '=' :: value => p.take setting (some (String.ofList value))
      | value => p.take setting (some (String.ofList value))

/-- Takes an argument with two dashes, without them. -/
def takeLong (p : Progress) (text : List Char) : Except Refusal Progress :=
  let name := String.ofList (text.takeWhile (· != '='))
  let value := ((text.dropWhile (· != '=')).tail?).map String.ofList
  match longArgument? name, value with
  | none, _ => .error (.unknownArgument ("--" ++ name) (Argument.similar? name) p.givenAtLast)
  | some (.inl setting), value => p.take setting value
  | some (.inr flag), none => p.raise flag
  | some (.inr flag), some value => .error (.unwantedValue flag value p.given)

/-- Takes an argument that is no option: the value that one waits for, or an
error. -/
def takePlain (p : Progress) (argument : String) : Except Refusal Progress :=
  match p.pending with
  | some (setting, none) => .ok { p with pending := some (setting, some argument) }
  | _ => .error (.unknownArgument argument none [])

/-- Takes arguments. Behind two dashes none may follow. -/
def takeAll (p : Progress) : List String → Except Refusal Progress
  | [] => p.settle
  | argument :: rest =>
    match argument.toList with
    | ['-', '-'] =>
      match rest with
      | [] => p.settle
      | extra :: _ => .error (.unknownArgument extra none [])
    | '-' :: '-' :: text => do (← p.takeLong text).takeAll rest
    | ['-'] => do (← p.takePlain argument).takeAll rest
    | '-' :: letters => do (← p.takeLetters letters).takeAll rest
    | _ => do (← p.takePlain argument).takeAll rest

end Progress

/-- Reads the arguments behind the name of the command. -/
def parse (arguments : List String) : Except Refusal Options :=
  (({} : Progress).takeAll arguments).map Progress.options

end ProcessMonitor.CommandLine
