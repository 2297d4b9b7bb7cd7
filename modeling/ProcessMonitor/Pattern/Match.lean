-- Where a pattern matches. A set of places is a number in which the bit of each of
-- its places is set, and a pattern is taken for a relation between places: where it
-- begins and where it may end.
import ProcessMonitor.Pattern.Basic

namespace ProcessMonitor.Pattern

/-! ## Relations between places -/

/-- For each place, the set of the places that it leads to. -/
abbrev Steps := List Nat

namespace Steps

/-- From each of `size` places to itself. -/
def stay (size : Nat) : Steps := (List.range size).map fun place => 1 <<< place

/-- The places that the places of a set lead to. -/
def follow : Steps → Nat → Nat
  | [], _ => 0
  | ends :: rest, places => (if places % 2 == 1 then ends else 0) ||| follow rest (places / 2)

/-- One step and then another one. -/
def andThen (a b : Steps) : Steps := a.map (follow b)

/-- One of two steps. -/
def orElse (a b : Steps) : Steps := List.zipWith (· ||| ·) a b

/-- A step `n` times. Half of them are done once and taken twice. -/
def power (steps : Steps) (n : Nat) : Steps :=
  if _ : n = 0 then stay steps.length
  else
    let half := power steps (n / 2)
    if n % 2 == 1 then (half.andThen half).andThen steps else half.andThen half
termination_by n

/-- A step from `least` to `most` times. Between `size` places, `size` steps lead to the
same places as any larger number of them. -/
def times (steps : Steps) (least : Nat) (most : Option Nat) : Steps :=
  let size := steps.length
  let more := match most with
    | none => size
    | some most => min (most - least) size
  (steps.power (min least size)).andThen ((orElse (stay size) steps).power more)

end Steps

/-! ## Matches -/

/-- The steps of a pattern that takes the same number of characters from a place
whenever it matches there. `taken?` gets the character in front of the place and the
text behind it. -/
def stepsBy (taken? : Option Char → List Char → Option Nat) (place : Nat)
    (before : Option Char) (text : List Char) : Steps :=
  let ends := match taken? before text with
    | none => 0
    | some taken => 1 <<< (place + taken)
  match text with
  | [] => [ends]
  | c :: rest => ends :: stepsBy taken? (place + 1) (some c) rest

/-- Where the pattern may end, for each place where it begins. -/
def steps (text : List Char) : Pattern → Steps
  | .empty => Steps.stay (text.length + 1)
  | .literal chars =>
    stepsBy (fun _ rest => if chars.isPrefixOf rest then some chars.length else none) 0 none text
  | .set chars =>
    stepsBy (fun _ rest => if rest.head?.any chars.contains then some 1 else none) 0 none text
  | .look condition =>
    stepsBy (fun before rest => if condition.holds before rest.head? then some 0 else none) 0 none
      text
  | .capture p => p.steps text
  | .seq p q => (p.steps text).andThen (q.steps text)
  | .alt p q => (p.steps text).orElse (q.steps text)
  | .times p least most _ => (p.steps text).times least most

/-- True when the pattern matches somewhere in the text. -/
def matchesIn (p : Pattern) (text : List Char) : Bool := (p.steps text).any (· != 0)

end ProcessMonitor.Pattern
