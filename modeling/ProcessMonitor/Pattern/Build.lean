-- Patterns made of patterns, in their short form: what changes no match is left
-- out, and branches that begin alike have their beginning in common.
import ProcessMonitor.Pattern.Basic

namespace ProcessMonitor.Pattern

/-- The pattern of a set. A set of one character is a literal. -/
def ofSet (chars : CharSet) : Pattern :=
  match chars.only? with
  | some c => .literal [c]
  | none => .set chars

/-! ## One after the other -/

/-- Puts a part in front of others; characters become one part with those
behind them. -/
def consPart : Pattern → List Pattern → List Pattern
  | .literal chars, .literal more :: rest => .literal (chars ++ more) :: rest
  | p, rest => p :: rest

/-- Patterns one after the other. -/
def concat (ps : List Pattern) : Pattern := ofParts ((ps.flatMap parts).foldr consPart [])

/-! ## A choice -/

/-- The set of a pattern that is one character. -/
def charSet? : Pattern → Option CharSet
  | .literal [c] => some (.single c)
  | _ => none

/-- The set of a pattern that is one. -/
def set? : Pattern → Option CharSet
  | .set chars => some chars
  | _ => none

/-- All sets in one. -/
def unionAll (sets : List CharSet) : CharSet := sets.foldl .union .empty

/-- True when a group whose text is kept stands in the pattern. -/
def hasCapture : Pattern → Bool
  | .capture _ => true
  | .seq p q => p.hasCapture || q.hasCapture
  | .alt p q => p.hasCapture || q.hasCapture
  | .times p _ _ _ => p.hasCapture
  | _ => false

/-- The parts that two rows begin with alike. No two groups are alike when their
texts are kept. -/
def commonParts : List Pattern → List Pattern → List Pattern
  | p :: ps, q :: qs => if p == q && !p.hasCapture then p :: commonParts ps qs else []
  | _, _ => []

/-- The parts of a pattern that has several. -/
def row : Pattern → List Pattern
  | .seq p q => p :: q.parts
  | _ => []

/-- The parts that all patterns begin with. -/
def commonStart : List Pattern → List Pattern
  | [] => []
  | p :: rest => rest.foldl (fun common q => commonParts common q.row) p.row

/-- How many patterns stand in a pattern. -/
def weight : Pattern → Nat
  | .capture p => p.weight + 1
  | .seq p q => p.weight + q.weight + 1
  | .alt p q => p.weight + q.weight + 1
  | .times p _ _ _ => p.weight + 1
  | _ => 1

/-- A choice between patterns. Single characters become a set, and so do sets. What
all branches begin with comes before the choice, which then is one between lighter
patterns. -/
def choice : Nat → List Pattern → Pattern
  | fuel, ps =>
    let all := ps.flatMap branches
    match all with
    | [p] => p
    | _ =>
      match all.mapM charSet?, all.mapM set?, fuel with
      | some sets, _, _ => ofSet (unionAll sets)
      | _, some sets, _ => ofSet (unionAll sets)
      | _, _, 0 => ofBranches all
      | _, _, fuel + 1 =>
        let common := commonStart all
        if common.isEmpty then ofBranches all
        else
          concat (common ++ [choice fuel (all.map fun p => concat (p.parts.drop common.length))])

/-- One of several patterns. -/
def oneOf (ps : List Pattern) : Pattern := choice (ps.foldl (fun n p => n + p.weight) 0) ps

/-! ## Many times -/

/-- A pattern from `least` to `most` times. What takes no character matches no more
often than once. -/
def repeated (p : Pattern) (least : Nat) (most : Option Nat) (greedy : Bool) : Pattern :=
  let (least, most) : Nat × Option Nat :=
    if p.takesNothing then (min least 1, some (min (most.getD 1) 1)) else (least, most)
  if least == 0 && most == some 0 then .empty
  else if least == 1 && most == some 1 then p
  else .times p least most greedy

end ProcessMonitor.Pattern
