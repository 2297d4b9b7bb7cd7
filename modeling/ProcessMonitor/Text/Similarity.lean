-- How alike two texts are: the characters that stand at about the same place in
-- both count for them, and pairs of those in another order count against them.
import ProcessMonitor.Number.Double

namespace ProcessMonitor.Text

/-- Takes the first free `c` among `count` characters behind the first `skip`
ones. A character that is taken is marked. -/
def take? (c : Char) : Nat → Nat → List (Char × Bool) → Option (List (Char × Bool))
  | _, _, [] => none
  | skip + 1, count, other :: rest => (take? c skip count rest).map (other :: ·)
  | 0, 0, _ :: _ => none
  | 0, count + 1, other :: rest =>
    if other.1 == c && !other.2 then some ((c, true) :: rest)
    else (take? c 0 count rest).map (other :: ·)

/-- The characters of a text, the first of which has the number `index`, that
have a partner in the other text at most `reach` places away, and the other text
with the partners marked. -/
def partners (reach : Nat) :
    Nat → List Char → List (Char × Bool) → List Char × List (Char × Bool)
  | _, [], other => ([], other)
  | index, c :: rest, other =>
    match take? c (index - reach) (index + reach + 1 - (index - reach)) other with
    | none => partners reach (index + 1) rest other
    | some other =>
      let (found, other) := partners reach (index + 1) rest other
      (c :: found, other)

/-- How alike two texts are, from 0 to 1. -/
def similarity (a b : List Char) : Double :=
  let reach := max a.length b.length / 2 - 1
  let (left, marked) := partners reach 0 a (b.map (·, false))
  let right := (marked.filter (·.2)).map (·.1)
  let found := left.length
  let swapped := ((left.zip right).filter fun (c, d) => c != d).length / 2
  if a.isEmpty && b.isEmpty then 1
  else if found == 0 then 0
  else
    (Double.ofRatio false found a.length + Double.ofRatio false found b.length
      + Double.ofRatio false (found - swapped) found) / 3

end ProcessMonitor.Text
