-- Patterns for text. A pattern is kept in a short form: what is written one after
-- the other is one row of parts, what is a choice is one row of branches, and a
-- row of characters is one part.
import ProcessMonitor.Pattern.Look

namespace ProcessMonitor

/-- A pattern. The left side of a `seq` is no `seq`, and the left side of an `alt`
is no `alt`. -/
inductive Pattern where
  /-- Matches without taking a character. -/
  | empty
  /-- These characters one after the other; there is at least one. -/
  | literal (chars : List Char)
  | set (chars : CharSet)
  | look (condition : Look)
  /-- A group whose text is kept. -/
  | capture (p : Pattern)
  | seq (p q : Pattern)
  | alt (p q : Pattern)
  /-- From `least` to `most` times; without `most` there is no upper end. A greedy
  one takes as many as it can. -/
  | times (p : Pattern) (least : Nat) (most : Option Nat) (greedy : Bool)
deriving DecidableEq, Repr

namespace Pattern

/-! ## Rows -/

/-- The parts of a pattern, one after the other. -/
def parts : Pattern → List Pattern
  | .empty => []
  | .seq p q => p :: q.parts
  | p => [p]

/-- The branches of a pattern. -/
def branches : Pattern → List Pattern
  | .alt p q => p :: q.branches
  | p => [p]

/-- Parts one after the other. -/
def ofParts : List Pattern → Pattern
  | [] => .empty
  | [p] => p
  | p :: rest => .seq p (ofParts rest)

/-- Branches of a choice. No branch at all matches nothing. -/
def ofBranches : List Pattern → Pattern
  | [] => .set .empty
  | [p] => p
  | p :: rest => .alt p (ofBranches rest)

/-! ## Lengths -/

/-- How many bytes a text takes in UTF-8. -/
def byteCount (chars : List Char) : Nat := (String.ofList chars).utf8ByteSize

/-- The least of two lengths, for both of which there must be one. -/
def both? (join : Nat → Nat → Nat) (a b : Option Nat) : Option Nat :=
  a.bind fun a => b.map (join a)

/-- The bytes of the shortest text that the pattern matches. There is none when a
part of it is a set without characters. -/
def shortest? : Pattern → Option Nat
  | .empty => some 0
  | .literal chars => some (byteCount chars)
  | .set chars => chars.ranges.head?.map fun range => (Char.ofNat range.1).utf8Size
  | .look _ => some 0
  | .capture p => p.shortest?
  | .seq p q => both? (· + ·) p.shortest? q.shortest?
  | .alt p q => both? min p.shortest? q.shortest?
  | .times p least _ _ => p.shortest?.map (least * ·)

/-- The bytes of the longest text that the pattern matches. There is none when a
part of it is a set without characters or has no upper end. -/
def longest? : Pattern → Option Nat
  | .empty => some 0
  | .literal chars => some (byteCount chars)
  | .set chars => chars.ranges.getLast?.map fun range => (Char.ofNat range.2).utf8Size
  | .look _ => some 0
  | .capture p => p.longest?
  | .seq p q => both? (· + ·) p.longest? q.longest?
  | .alt p q => both? max p.longest? q.longest?
  | .times p _ most _ => both? (· * ·) most p.longest?

/-- True when the pattern only matches where no character is taken. -/
def takesNothing (p : Pattern) : Bool := p.longest? == some 0

/-! ## Conditions that always hold -/

/-- True when every match begins where the condition holds. -/
def beginsAt (condition : Look) : Pattern → Bool
  | .look other => other == condition
  | .capture p => p.beginsAt condition
  | .seq p q => p.beginsAt condition || (p.takesNothing && q.beginsAt condition)
  | .alt p q => p.beginsAt condition && q.beginsAt condition
  | .times p least _ _ => least > 0 && p.beginsAt condition
  | _ => false

/-- True when every match ends where the condition holds. -/
def endsAt (condition : Look) : Pattern → Bool
  | .look other => other == condition
  | .capture p => p.endsAt condition
  | .seq p q => q.endsAt condition || (q.takesNothing && p.endsAt condition)
  | .alt p q => p.endsAt condition && q.endsAt condition
  | .times p least _ _ => least > 0 && p.endsAt condition
  | _ => false

/-- True when a condition stands in the pattern that cannot be tested. -/
def usesUnlisted : Pattern → Bool
  | .look condition => condition == .unlisted
  | .capture p => p.usesUnlisted
  | .seq p q => p.usesUnlisted || q.usesUnlisted
  | .alt p q => p.usesUnlisted || q.usesUnlisted
  | .times p _ _ _ => p.usesUnlisted
  | _ => false

end Pattern

end ProcessMonitor
