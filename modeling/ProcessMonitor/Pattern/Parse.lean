-- Patterns as they are written. Without a table of the letters of all languages
-- three things cannot be written: the classes of such letters, both cases of a
-- letter, and the boundaries of their words. Where a pattern turns to ASCII
-- alone, all three can be written, but what would match outside of ASCII cannot.
import ProcessMonitor.Number.Numeral
import ProcessMonitor.Pattern.Brackets
import ProcessMonitor.Pattern.Size
import ProcessMonitor.Text.Letters

namespace ProcessMonitor.Pattern

/-! ## Counts -/

/-- Reads a count; blanks may stand around it. -/
def countDigits (flags : Flags) : Nat → List Char → List Char × List Char
  | 0, text => ([], text)
  | fuel + 1, text =>
    match text with
    | [] => ([], [])
    | c :: rest =>
      if c.isDigit then
        let (digits, rest) := countDigits flags fuel (flags.skip rest)
        (c :: digits, rest)
      else ([], c :: rest)

def count? (flags : Flags) (text : List Char) : Option (Nat × List Char) :=
  let (digits, rest) := countDigits flags text.length (text.dropWhile Text.isBlank)
  (natural32? digits).map (·, flags.skip (rest.dropWhile Text.isBlank))

/-- Reads a least and a most count behind an opening brace. -/
def counts? (flags : Flags) (text : List Char) : Option (Nat × Option Nat × List Char) := do
  let (least, rest) ← count? flags (flags.skip text)
  let (most, rest) ← match rest with
    | ',' :: rest =>
      match flags.skip rest with
      | '\x7d' :: _ => some (none, flags.skip rest)
      | rest => (count? flags rest).map fun (most, rest) => (some most, rest)
    | _ => some (some least, rest)
  match rest with
  | '\x7d' :: rest => if most.all (least ≤ ·) then some (least, most, rest) else none
  | _ => none

/-- Reads the mark of a repetition that is not greedy. -/
def lazyMark : List Char → Bool × List Char
  | '?' :: rest => (true, rest)
  | text => (false, text)

/-! ## Flags in a group -/

/-- Sets the flag with a letter. -/
def setFlag? (flags : Flags) (value : Bool) : Char → Option Flags
  | 'i' => some { flags with caseless := value }
  | 'm' => some { flags with multiline := value }
  | 's' => some { flags with dotAll := value }
  | 'R' => some { flags with returns := value }
  | 'u' => some { flags with ascii := !value }
  | 'x' => some { flags with spaced := value }
  | 'U' => some { flags with swapped := value }
  | _ => none

/-- Reads the letters of flags up to a colon or a closing parenthesis. No letter
may stand twice, and a letter must follow the minus sign. -/
def letters? (seen : List Char) (value : Bool) (flags : Flags) :
    List Char → Option (List Char × Flags × List Char)
  | [] => none
  | c :: rest =>
    if c == ':' || c == ')' then
      if seen.head? == some '-' then none else some (seen, flags, c :: rest)
    else if seen.contains c then none
    else if c == '-' then letters? (c :: seen) false flags rest
    else (setFlag? flags value c).bind fun flags => letters? (c :: seen) value flags rest

/-! ## Groups -/

/-- One part of a branch, and how deep repetitions, groups, rows and brackets stand
in each other in it. A part that only sets flags cannot be repeated. -/
structure Part where
  pattern : Pattern
  depth : Nat := 0
  repeatable : Bool := true

/-- How deep parts are together. Several of them are a row, which is one step
deeper. -/
def rowDepth : List Part → Nat
  | [] => 0
  | [part] => part.depth
  | parts => parts.foldl (fun depth part => max depth part.depth) 0 + 1

/-- What is read of a group: the branches before the last bar and the parts
behind it, each the last one first. -/
structure Scope where
  branches : List Part := []
  parts : List Part := []

namespace Scope

/-- The parts behind the last bar as one. -/
def branch (scope : Scope) : Part :=
  { pattern := concat (scope.parts.reverse.map (·.pattern)), depth := rowDepth scope.parts }

/-- All that was read as one part. -/
def whole (scope : Scope) : Part :=
  let branches := scope.branch :: scope.branches
  { pattern := oneOf (branches.reverse.map (·.pattern)), depth := rowDepth branches }

def add (scope : Scope) (part : Part) : Scope := { scope with parts := part :: scope.parts }

/-- Begins the next branch. -/
def next (scope : Scope) : Scope := ⟨scope.branch :: scope.branches, []⟩

/-- Repeats the last part. -/
def repeat? (scope : Scope) (least : Nat) (most : Option Nat) (greedy : Bool) : Option Scope :=
  match scope.parts with
  | [] => none
  | part :: rest =>
    if part.repeatable then
      let again : Part :=
        { pattern := repeated part.pattern least most greedy, depth := part.depth + 1 }
      some { scope with parts := again :: rest }
    else none

end Scope

/-- An open group: the flags and the parts around it, and whether its text is
kept. -/
structure Group where
  flags : Flags
  scope : Scope
  isKept : Bool

/-- The state of reading: the flags, the innermost open group, the groups around
it, and the names of groups. -/
structure Draft where
  flags : Flags := {}
  scope : Scope := {}
  around : List Group := []
  names : List (List Char) := []

/-- True for the characters of a name. -/
def isNameCharacter (first : Bool) (c : Char) : Bool :=
  c == '_' || Text.isAlphabetic c
    || (!first && (Text.isNumeric c || c == '.' || c == '[' || c == ']'))

/-- Opens a group that is read with the given flags. -/
def Draft.enter (draft : Draft) (flags : Flags) (isKept : Bool) : Draft :=
  { draft with flags, scope := {}, around := ⟨draft.flags, draft.scope, isKept⟩ :: draft.around }

/-- Opens a group with a name. No name may stand twice. -/
def Draft.enterNamed? (draft : Draft) (text : List Char) : Option (Draft × List Char) :=
  let name := text.takeWhile (· != '>')
  match name, text.dropWhile (· != '>') with
  | first :: more, _ :: rest =>
    if isNameCharacter true first && more.all (isNameCharacter false)
        && !draft.names.contains name then
      some ({ draft.enter draft.flags true with names := name :: draft.names }, rest)
    else none
  | _, _ => none

/-- Reads what follows an opening parenthesis: a group, or flags for the rest of
the group around. A pattern cannot look at what is around the match. -/
def Draft.open? (draft : Draft) (text : List Char) : Option (Draft × List Char) := do
  let text := draft.flags.skip text
  match text with
  | '?' :: 'P' :: '<' :: rest => draft.enterNamed? rest
  | '?' :: '<' :: '=' :: _ => none
  | '?' :: '<' :: '!' :: _ => none
  | '?' :: '<' :: rest => draft.enterNamed? rest
  | '?' :: rest =>
    let (seen, flags, rest) ← letters? [] true draft.flags rest
    match rest with
    | ':' :: rest => some (draft.enter flags false, rest)
    | _ =>
      if seen.isEmpty then none
      else
        let scope := draft.scope.add { pattern := .empty, repeatable := false }
        some ({ draft with flags, scope }, rest.drop 1)
  | _ => some (draft.enter draft.flags true, text)

/-- Closes the innermost group. -/
def Draft.close? (draft : Draft) : Option Draft :=
  match draft.around with
  | [] => none
  | group :: around =>
    let whole := draft.scope.whole
    let pattern := if group.isKept then .capture whole.pattern else whole.pattern
    let scope := group.scope.add { pattern, depth := whole.depth + 1 }
    some { draft with flags := group.flags, scope, around }

namespace Flags

/-- The pattern of one character or escape that stands by itself. -/
def pattern? (flags : Flags) : Atom → Option Pattern
  | .char c isByte =>
    if !flags.knowsCase || (flags.ascii && isByte && c > CharSet.lastAscii) then none
    else some (ofSet (flags.fold (.single c)))
  | .short ranges negated => (flags.short? ranges negated).map ofSet
  | .look condition => some (.look condition)

/-- The pattern of the point: any character but the end of a line. -/
def dot? (flags : Flags) : Option Pattern :=
  let lineEnds : CharSet :=
    if flags.dotAll then .empty
    else if flags.returns then .union (.single '\n') (.single '\r')
    else .single '\n'
  if flags.ascii then none else some (ofSet lineEnds.compl)

def lineStart (flags : Flags) : Look :=
  if !flags.multiline then .textStart else if flags.returns then .returnStart else .lineStart

def lineEnd (flags : Flags) : Look :=
  if !flags.multiline then .textEnd else if flags.returns then .returnEnd else .lineEnd

end Flags

/-! ## The whole pattern -/

/-- Repeats the last part, which is greedy or not by the mark that follows. -/
def Draft.again? (draft : Draft) (least : Nat) (most : Option Nat) (text : List Char) :
    Option (Draft × List Char) := do
  let (isLazy, rest) := lazyMark text
  let scope ← draft.scope.repeat? least most (isLazy == draft.flags.swapped)
  some ({ draft with scope }, rest)

/-- Reads the next part of a pattern that does not begin with a blank. -/
def Draft.step? (draft : Draft) : List Char → Option (Draft × List Char)
  | [] => none
  | c :: rest =>
    let flags := draft.flags
    let add := fun (pattern : Pattern) => { draft with scope := draft.scope.add { pattern } }
    match c with
    | '(' => draft.open? rest
    | ')' => draft.close?.map (·, rest)
    | '|' => some ({ draft with scope := draft.scope.next }, rest)
    | '[' => (bracketSet? flags rest).map fun (held, rest) =>
      let part : Part := { pattern := ofSet held.chars, depth := held.depth }
      ({ draft with scope := draft.scope.add part }, rest)
    | '?' => draft.again? 0 (some 1) rest
    | '*' => draft.again? 0 none rest
    | '+' => draft.again? 1 none rest
    | '\x7b' => (counts? flags rest).bind fun (least, most, rest) =>
      draft.again? least most (flags.skip rest)
    | '.' => flags.dot?.map fun pattern => (add pattern, rest)
    | '^' => some (add (.look flags.lineStart), rest)
    | '$' => some (add (.look flags.lineEnd), rest)
    | _ => do
      let (atom, rest) ← atom? flags (c :: rest)
      some (add (← flags.pattern? atom), rest)

/-- Reads parts until the text ends. Each part takes at least one character. -/
def Draft.all? : Nat → Draft → List Char → Option Draft
  | 0, draft, text => if text.isEmpty then some draft else none
  | fuel + 1, draft, text =>
    match draft.flags.skip text with
    | [] => some draft
    | text => (draft.step? text).bind fun (draft, rest) => Draft.all? fuel draft rest

/-- As deep as this may the parts of a pattern stand in each other. -/
def maxDepth : Nat := 250

/-- Reads a pattern, for a text that is one, keeps the limits and asks for nothing
that cannot be tested. -/
def parse? (text : List Char) : Option Pattern := do
  let draft ← Draft.all? text.length {} text
  let whole := draft.scope.whole
  if draft.around.isEmpty && whole.depth ≤ maxDepth && whole.pattern.fits
      && !whole.pattern.usesUnlisted then
    some whole.pattern
  else none

end ProcessMonitor.Pattern
