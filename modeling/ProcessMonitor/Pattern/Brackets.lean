-- Sets of characters as they are written in brackets: characters, ranges, classes
-- and brackets inside of brackets, with operations between them.
import ProcessMonitor.Pattern.Escape

namespace ProcessMonitor.Pattern

/-! ## What may stand in a set -/

namespace Flags

/-- A set, with both cases where letters stand for both. -/
def fold (flags : Flags) (chars : CharSet) : CharSet :=
  if flags.caseless then chars.anyCase else chars

/-- A set, or what is not in it. Where classes know ASCII only, nothing outside
of ASCII may match. -/
def negate? (flags : Flags) (negated : Bool) (chars : CharSet) : Option CharSet :=
  if negated then if flags.ascii then none else some chars.compl else some chars

/-- True when a set of given characters can be made; both cases of a letter are
known in ASCII only. -/
def knowsCase (flags : Flags) : Bool := flags.ascii || !flags.caseless

/-- The set of a short class. -/
def short? (flags : Flags) (ranges : List (Char × Char)) (negated : Bool) : Option CharSet :=
  if flags.ascii then flags.negate? negated (CharSet.ofRanges ranges) else none

/-- A character of a set in brackets. -/
def member? (flags : Flags) : Atom → Option Char
  | .char c _ =>
    if flags.knowsCase && (!flags.ascii || c ≤ CharSet.lastAscii) then some c else none
  | _ => none

/-- An item of a set in brackets. -/
def item? (flags : Flags) : Atom → Option CharSet
  | .short ranges negated => flags.short? ranges negated
  | atom => (flags.member? atom).map CharSet.single

end Flags

/-! ## Brackets -/

/-- The operations between sets in brackets. -/
inductive SetOperation where
  | inter
  | diff
  | either
deriving DecidableEq, Repr

def SetOperation.apply : SetOperation → CharSet → CharSet → CharSet
  | .inter, a, b => a.inter b
  | .diff, a, b => a.diff b
  | .either, a, b => a.either b

/-- A set that was read, and how deep brackets and rows of items stand in each other
in it. -/
structure Nested where
  chars : CharSet
  depth : Nat

/-- Items one after the other: what they hold, how many they are and how deep the
deepest of them is. -/
structure Items where
  chars : CharSet := .empty
  count : Nat := 0
  deepest : Nat := 0

/-- Adds an item that is a set. -/
def Items.add (items : Items) (item : Nested) : Items :=
  ⟨items.chars.union item.chars, items.count + 1, max items.deepest item.depth⟩

/-- Items as one set. Several of them are a row, which is one step deeper. -/
def Items.nested (items : Items) : Nested :=
  ⟨items.chars, if items.count ≥ 2 then items.deepest + 1 else items.deepest⟩

/-- An opened bracket: what stood in front of it in the bracket around it, and
the operation that waits for its right side. -/
structure Bracket where
  outer : Items
  negated : Bool
  waiting : Option (Nested × SetOperation)

/-- What was read in a bracket since the last operation, together with what
stands in front of that operation. -/
def Bracket.settle (bracket : Bracket) (flags : Flags) (items : Items) : Nested :=
  let right := items.nested
  match bracket.waiting with
  | none => right
  | some (left, operation) =>
    ⟨operation.apply (flags.fold left.chars) (flags.fold right.chars),
      max left.depth right.depth + 1⟩

/-- Reads dashes behind an opening bracket; they stand for themselves. -/
def leadingDashes (flags : Flags) : Nat → List Char → Nat × List Char
  | 0, text => (0, text)
  | fuel + 1, text =>
    match flags.skip text with
    | '-' :: rest =>
      let (count, rest) := leadingDashes flags fuel rest
      (count + 1, rest)
    | rest => (0, rest)

/-- Reads what follows an opening bracket: a caret, dashes, or one closing
bracket that stands for itself. -/
def openBracket? (flags : Flags) (outer : Items) (text : List Char) :
    Option (Bracket × Items × List Char) := do
  let text := flags.skip text
  let (negated, text) : Bool × List Char :=
    match text with
    | '^' :: rest => (true, rest)
    | _ => (false, text)
  let bracket : Bracket := ⟨outer, negated, none⟩
  let (dashes, text) := leadingDashes flags (text.length + 1) text
  if dashes > 0 then
    some (bracket, ⟨.single (← flags.member? (.char '-' false)), dashes, 0⟩, text)
  else
    match text with
    | ']' :: rest => some (bracket, ⟨.single (← flags.member? (.char ']' false)), 1, 0⟩, rest)
    | _ => some (bracket, {}, text)

/-- Reads a named set between colons, behind its opening bracket: its ranges, and
whether it stands for what is not in it. -/
def namedSet? (text : List Char) : Option (List (Char × Char) × Bool × List Char) := do
  match text with
  | ':' :: rest =>
    let (negated, rest) : Bool × List Char :=
      match rest with
      | '^' :: more => (true, more)
      | _ => (false, rest)
    let name := String.ofList (rest.takeWhile (· != ':'))
    match rest.dropWhile (· != ':') with
    | ':' :: ']' :: more => some (← CharSet.named.lookup name, negated, more)
    | _ => none
  | _ => none

/-- Reads one item of a set: a character, a class, or a range. A dash in front of
a closing bracket or of another dash makes no range. -/
def setItem? (flags : Flags) (text : List Char) : Option (CharSet × List Char) := do
  let (first, rest) ← atom? flags text
  match flags.skip rest with
  | '-' :: behind =>
    if (flags.glance? behind).any fun next => next == ']' || next == '-' then
      some (← flags.item? first, '-' :: behind)
    else
      let (last, more) ← atom? flags (flags.skip behind)
      let low ← flags.member? first
      let high ← flags.member? last
      if low ≤ high then some (.range low high, more) else none
  | rest => some (← flags.item? first, rest)

/-- Reads a set up to the bracket that closes the outermost one. `items` is what
the innermost open bracket holds since its last operation. -/
def brackets? (flags : Flags) : Nat → Bracket → List Bracket → Items → List Char →
    Option (Nested × List Char)
  | 0, _, _, _, _ => none
  | fuel + 1, bracket, around, items, text => do
    let operate := fun operation rest =>
      brackets? flags fuel { bracket with waiting := some (bracket.settle flags items, operation) }
        around {} rest
    match flags.skip text with
    | [] => none
    | '[' :: rest =>
      match namedSet? rest with
      | some (ranges, negated, rest) =>
        if flags.knowsCase then
          let named ← flags.negate? negated (flags.fold (CharSet.ofRanges ranges))
          brackets? flags fuel bracket around (items.add ⟨named, 0⟩) rest
        else none
      | none =>
        let (inner, held, rest) ← openBracket? flags items rest
        brackets? flags fuel inner (bracket :: around) held rest
    | ']' :: rest =>
      let settled := bracket.settle flags items
      let chars ← flags.negate? bracket.negated (flags.fold settled.chars)
      let held : Nested := ⟨chars, settled.depth + 1⟩
      match around with
      | [] => some (held, rest)
      | outer :: around => brackets? flags fuel outer around (bracket.outer.add held) rest
    | '&' :: '&' :: rest => operate .inter rest
    | '-' :: '-' :: rest => operate .diff rest
    | '~' :: '~' :: rest => operate .either rest
    | text =>
      let (item, rest) ← setItem? flags text
      brackets? flags fuel bracket around (items.add ⟨item, 0⟩) rest

/-- Reads a set behind its opening bracket. -/
def bracketSet? (flags : Flags) (text : List Char) : Option (Nested × List Char) := do
  let (bracket, items, rest) ← openBracket? flags {} text
  brackets? flags (text.length + 1) bracket [] items rest

end ProcessMonitor.Pattern
