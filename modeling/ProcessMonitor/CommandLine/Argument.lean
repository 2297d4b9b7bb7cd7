-- The options that the command line knows, by their names and letters.
import ProcessMonitor.Text.Similarity

namespace ProcessMonitor.CommandLine

/-- The options that take a value. -/
inductive Setting where
  | delay
  | sort
  | filter
  | logFile
deriving DecidableEq, Repr

/-- The options that take none. -/
inductive Flag where
  | ascending
  | help
  | version
deriving DecidableEq, Repr

/-- How messages show an option. -/
def Setting.shown : Setting → String
  | .delay => "--delay <MS>"
  | .sort => "--sort <COLUMN>"
  | .filter => "--filter <TEXT>"
  | .logFile => "--log-file <PATH>"

def Flag.shown : Flag → String
  | .ascending => "--ascending"
  | .help => "--help"
  | .version => "--version"

abbrev Argument := Setting ⊕ Flag

namespace Argument

def shown : Argument → String
  | .inl setting => setting.shown
  | .inr flag => flag.shown

/-- The options that say how the monitor starts. -/
def settings : List Argument :=
  [.inl .delay, .inl .sort, .inr .ascending, .inl .filter, .inl .logFile]

/-- All options. -/
def all : List Argument := settings ++ [.inr .help, .inr .version]

/-- The long name of an option, without its dashes. -/
def name : Argument → String
  | .inl .delay => "delay"
  | .inl .sort => "sort"
  | .inl .filter => "filter"
  | .inl .logFile => "log-file"
  | .inr .ascending => "ascending"
  | .inr .help => "help"
  | .inr .version => "version"

/-- A name must be more alike than this to be what was meant. -/
def leastSimilarity : Double := Double.ofRatio false 7 10

/-- The option whose name is most like a text, if one is like it at all. Of two
that are as much like it the later one counts. -/
def similar? (text : String) : Option Argument :=
  let better := fun (best : Option (Argument × Double)) (argument : Argument) =>
    let similarity := Text.similarity text.toList argument.name.toList
    if leastSimilarity.lt similarity && best.all (fun (_, most) => most.le similarity) then
      some (argument, similarity)
    else best
  (all.foldl better none).map (·.1)

end Argument

def longArgument? (name : String) : Option Argument := Argument.all.find? (·.name == name)

def shortArgument? : Char → Option Argument
  | 'd' => some (.inl .delay)
  | 's' => some (.inl .sort)
  | 'f' => some (.inl .filter)
  | 'a' => some (.inr .ascending)
  | 'h' => some (.inr .help)
  | 'V' => some (.inr .version)
  | _ => none

end ProcessMonitor.CommandLine
