-- Keys as the characters that a terminal sends for them. An escape character
-- begins the sequence of one key; without such a sequence behind it, it is the
-- escape key or another key held with alt.
import ProcessMonitor.Session.Key

namespace ProcessMonitor.Key

/-- The sequences behind an escape character, each with its key. -/
def sequences : List (String × KeyCode) :=
  [("[A", .up), ("[B", .down), ("[C", .right), ("[D", .left), ("[H", .home), ("[F", .endKey),
   ("OA", .up), ("OB", .down), ("OC", .right), ("OD", .left), ("OH", .home), ("OF", .endKey),
   ("[1~", .home), ("[2~", .insert), ("[3~", .delete), ("[4~", .endKey), ("[5~", .pageUp),
   ("[6~", .pageDown), ("[7~", .home), ("[8~", .endKey), ("[Z", .backTab), ("OP", .function 1),
   ("[11~", .function 1), ("[15~", .function 5), ("[17~", .function 6)]

/-- The key of one character that stands alone. The characters from 1 to 26 are
letters held with control. -/
def ofChar (c : Char) : Key :=
  if c == '\r' || c == '\n' then { code := .enter }
  else if c == '\t' then { code := .tab }
  else if c == '\x1b' then { code := .escape }
  else if c == '\x7f' then { code := .backspace }
  else if 1 ≤ c.toNat && c.toNat ≤ 26 then
    { code := .char (Char.ofNat (c.toNat + 'a'.toNat - 1)), control := true }
  else { code := .char c, shift := c.isUpper }

/-- The key that begins with a character, and how many of the characters behind
it belong to the key. -/
def begunBy (c : Char) (rest : List Char) : Key × Nat :=
  if c != '\x1b' then (ofChar c, 0)
  else
    match sequences.find? fun (text, _) => text.toList.isPrefixOf rest, rest with
    | some (text, code), _ => ({ code }, text.length)
    | none, held :: _ => ({ ofChar held with alt := true }, 1)
    | none, [] => (ofChar c, 0)

/-- The keys of a text after the characters that belong to an earlier key. -/
def keysAfter : Nat → List Char → List Key
  | _, [] => []
  | earlier + 1, _ :: rest => keysAfter earlier rest
  | 0, c :: rest =>
    let (key, more) := begunBy c rest
    key :: keysAfter more rest

/-- The keys that a text stands for. -/
def ofText (text : String) : List Key := keysAfter 0 text.toList

end ProcessMonitor.Key
