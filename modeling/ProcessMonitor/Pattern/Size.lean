-- How large a pattern is. A pattern stands for two automata that read the bytes of
-- a text, one forward and one backward, and for each of them there is a limit of
-- room. A repetition is as many copies of its pattern, so a short pattern can be
-- too large.
import ProcessMonitor.Pattern.Build
import ProcessMonitor.Pattern.ByteRows

namespace ProcessMonitor.Pattern

/-- The ways to read a text. -/
inductive Direction where
  | forward
  | backward
deriving DecidableEq, Repr

/-- The room for a state, in bytes. -/
def stateRoom : Nat := 32

/-- What a state takes besides for each range of bytes that leads on, when it has
several. -/
def rangeRoom : Nat := 8

/-- What a state takes besides for each of the states it chooses from. -/
def branchRoom : Nat := 4

/-- The room that an automaton may take. -/
def maxRoom : Nat := 10 * 1024 * 1024

/-! ## Sets -/

/-- The room of a state from which ranges of bytes lead on. -/
def rangesRoom (count : Nat) : Nat := stateRoom + rangeRoom * count

/-- The room of a set. Sets of ASCII have one state for all their ranges. Other ones
have a state for all that may follow while a character is read; backward they have
one for each beginning of a row, and a choice between the rows. -/
def setRoom (direction : Direction) (chars : CharSet) : Nat :=
  if chars.isAscii then stateRoom + rangesRoom chars.ranges.length
  else
    let rows := ByteRow.ofSet chars
    match direction with
    | .forward =>
      let states := (ByteRow.remainders 4 rows).eraseDups
      states.foldl (fun room rest => room + rangesRoom (ByteRow.groups rest).length) stateRoom
    | .backward =>
      2 * stateRoom + stateRoom * (ByteRow.starts rows).length + branchRoom * rows.length

/-! ## Words -/

/-- The words of a choice that has only words. -/
def words? (p : Pattern) : Option (List (List UInt8)) :=
  p.branches.mapM fun branch =>
    match branch with
    | .literal chars => some (String.ofList chars).toUTF8.toList
    | _ => none

/-- Words in chunks. A word that ends here ends a chunk. -/
def chunks : List (List UInt8) → List (List (List UInt8))
  | [] => [[]]
  | [] :: rest => [] :: chunks rest
  | word :: rest =>
    match chunks rest with
    | first :: more => (word :: first) :: more
    | [] => [[word]]

/-- Words without those that say nothing new: only the first of the words that end
here in front of all other ones. -/
def dropRepeatedEnds : List (List UInt8) → List (List UInt8)
  | [] :: rest => [] :: rest.dropWhile List.isEmpty
  | words => words

/-- The room of the states that tell words apart, each by its first byte first. A
state chooses between its chunks, and between them and the end. -/
def wordsRoom : Nat → List (List UInt8) → Nat
  | 0, _ => 0
  | fuel + 1, words =>
    let chunks := chunks (dropRepeatedEnds words)
    let full := chunks.filter (!·.isEmpty)
    full.foldl
      (fun room chunk =>
        let bytes := (chunk.filterMap List.head?).eraseDups
        bytes.foldl
          (fun room byte =>
            let rests := (chunk.filter (·.head? == some byte)).map List.tail
            if rests.all List.isEmpty then room else room + wordsRoom fuel rests)
          (room + if bytes.length == 1 then stateRoom else rangesRoom bytes.length))
      (stateRoom + branchRoom * (full.length + (chunks.length - 1)))

/-- The room of a choice between words. -/
def choiceRoom (direction : Direction) (words : List (List UInt8)) : Nat :=
  let words := match direction with
    | .forward => words
    | .backward => words.map List.reverse
  stateRoom + wordsRoom (words.foldl (fun most word => max most word.length) 0 + 1) words

/-! ## Patterns -/

/-- The room of a part of an automaton. -/
structure Room where
  size : Nat
  /-- True when the part ends with a state that chooses, so that the state behind it
  is one more to choose from. -/
  endsOpen : Bool := false

/-- What it takes to go on behind a part. -/
def Room.link (room : Room) : Nat := if room.endsOpen then branchRoom else 0

/-- One part and then another one. -/
def Room.append (a b : Room) : Room := ⟨a.size + a.link + b.size, b.endsOpen⟩

/-- A part `n` times. -/
def Room.copies (n : Nat) (room : Room) : Room :=
  if n == 0 then ⟨stateRoom, false⟩
  else ⟨n * room.size + (n - 1) * room.link, room.endsOpen⟩

/-- A part from `least` to `most` times. `isLong` says that it takes a character each
time; only then may it lead back to the choice it comes from. -/
def Room.times (room : Room) (least : Nat) (most : Option Nat) (isLong : Bool) : Room :=
  match most with
  | some most =>
    if least == most then room.copies least
    else if least == 0 && most == 1 then
      ⟨2 * stateRoom + 2 * branchRoom + room.size + room.link, false⟩
    else
      let first := room.copies least
      let more := (most - least) * (stateRoom + 2 * branchRoom + room.size + room.link)
      ⟨first.size + first.link + stateRoom + more, false⟩
  | none =>
    if least == 0 && !isLong then
      ⟨3 * stateRoom + 4 * branchRoom + room.size + room.link, false⟩
    else
      ⟨max least 1 * (room.size + room.link) + stateRoom + branchRoom, true⟩

/-- A part as one branch of a choice, without the states around the branches. -/
def Room.branch (room : Room) : Room := ⟨room.size + room.link + branchRoom, false⟩

/-- The room of a pattern. With `isRest` it is that of its branches only, when they
are the last ones of a choice around it. -/
def room (direction : Direction) : Pattern → Bool → Room
  | .empty, isRest => alone isRest ⟨stateRoom, false⟩
  | .literal chars, isRest => alone isRest ⟨stateRoom * byteCount chars, false⟩
  | .set chars, isRest => alone isRest ⟨setRoom direction chars, false⟩
  | .look _, isRest => alone isRest ⟨stateRoom, false⟩
  | .capture p, isRest =>
    let inner := p.room direction false
    alone isRest <| match direction with
      | .forward => ⟨2 * stateRoom + inner.size + inner.link, false⟩
      | .backward => inner
  | .seq p q, isRest =>
    alone isRest <| match direction with
      | .forward => (p.room direction false).append (q.room direction false)
      | .backward => (q.room direction false).append (p.room direction false)
  | .alt p q, isRest =>
    let branches := (p.room direction true).size + (q.room direction true).size
    if isRest then ⟨branches, false⟩
    else
      match words? (.alt p q) with
      | some words => ⟨choiceRoom direction words, false⟩
      | none => ⟨2 * stateRoom + branches, false⟩
  | .times p least most _, isRest =>
    alone isRest ((p.room direction false).times least most (p.shortest?.any (· > 0)))
where
  alone (isRest : Bool) (room : Room) : Room := if isRest then room.branch else room

/-- The room of the states with which reading begins. Where a match may begin at any
place, what stands in front of it is skipped byte by byte. -/
def startRoom (isAnchored : Bool) : Nat :=
  if isAnchored then stateRoom else 2 * stateRoom + rangesRoom 1 + 2 * branchRoom

/-- The room of the automaton of a pattern. Forward it keeps where the match begins
and ends. -/
def automatonRoom (direction : Direction) (p : Pattern) : Nat :=
  let room := p.room direction false
  match direction with
  | .forward => startRoom (p.beginsAt .textStart) + 3 * stateRoom + room.size + room.link
  | .backward => startRoom (p.endsAt .textEnd) + stateRoom + room.size + room.link

/-- True when both automata of the pattern keep the limit. -/
def fits (p : Pattern) : Bool :=
  p.automatonRoom .forward ≤ maxRoom && p.automatonRoom .backward ≤ maxRoom

end ProcessMonitor.Pattern
