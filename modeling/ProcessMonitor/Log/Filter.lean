-- Which reports are kept: a level for everything, levels for the parts whose
-- paths begin with a name, or both.
import ProcessMonitor.Log.Entry
import ProcessMonitor.Pattern.Match
import ProcessMonitor.Pattern.Parse

namespace ProcessMonitor.Log

/-- One rule: a level for the paths that begin with `name`. Without a name it is
for all paths. The limit is the rank of the least grave level that is kept, and
0 keeps nothing. -/
structure Rule where
  name : Option (List Char)
  limit : Nat
deriving DecidableEq, Repr

/-- Rules, and a pattern that must match in a message. -/
structure Filter where
  rules : List Rule
  pattern : Option Pattern
deriving DecidableEq, Repr

namespace Filter

/-- The limit that keeps everything. -/
def everything : Nat := 5

/-- The filter that is used when none is given. -/
def defaultText : String := "info"

/-- Reads the name of a level, in any letter case. -/
def limit? (text : List Char) : Option Nat :=
  match String.ofList (text.map Char.toLower) with
  | "off" => some 0
  | "error" => some 1
  | "warn" => some 2
  | "info" => some 3
  | "debug" => some 4
  | "trace" => some 5
  | _ => none

/-- Reads one item: a level, a name, or a name with a level. Other items are no
rules. -/
def rule? (item : List Char) : Option Rule :=
  match Text.splitAt (· == '=') item with
  | [word] =>
    match limit? word with
    | some limit => some ⟨none, limit⟩
    | none => some ⟨some word, everything⟩
  | [name, level] =>
    let level := Text.trim level
    if level.isEmpty then some ⟨some name, everything⟩
    else (limit? level).map fun limit => ⟨some name, limit⟩
  | _ => none

/-- Adds a rule; it takes the place of an earlier one for the same name. -/
def insertRule (rules : List Rule) (rule : Rule) : List Rule :=
  if rules.any (·.name == rule.name) then
    rules.map fun old => if old.name == rule.name then rule else old
  else rules ++ [rule]

/-- How long a name is, in the order of the rules. -/
def nameSize (rule : Rule) : Nat :=
  (rule.name.map fun name => (String.ofList name).utf8ByteSize).getD 0

/-- The rules in the order of the lengths of their names. Without any rule only
errors are kept. -/
def arrange (rules : List Rule) : List Rule :=
  if rules.isEmpty then [⟨none, Level.error.rank⟩]
  else rules.mergeSort fun a b => nameSize a ≤ nameSize b

/-- Reads a filter: items between commas, and behind a slash a pattern that must
match in a message. What is no pattern asks for nothing. -/
def read (text : String) : Filter :=
  match Text.splitAt (· == '/') text.toList with
  | items :: rest =>
    if rest.length > 1 then ⟨arrange [], none⟩
    else
      let items := ((Text.splitAt (· == ',') items).map Text.trim).filter (!·.isEmpty)
      ⟨arrange ((items.filterMap rule?).foldl insertRule []), rest.head?.bind Pattern.parse?⟩
  | [] => ⟨arrange [], none⟩

/-- The rule for a path: the last one whose name the path begins with. -/
def ruleFor? (filter : Filter) (path : List Char) : Option Rule :=
  filter.rules.reverse.find? fun rule =>
    match rule.name with
    | none => true
    | some name => name.isPrefixOf path

/-- True for the reports that are kept. -/
def keeps (filter : Filter) (entry : Entry) : Bool :=
  let loud := match filter.ruleFor? entry.topic.path.toList with
    | none => false
    | some rule => entry.level.rank ≤ rule.limit
  loud && filter.pattern.all (·.matchesIn entry.message.toList)

end Filter

end ProcessMonitor.Log
