-- How the characters of a set are written in UTF-8: as rows of byte ranges. A row
-- stands for all characters whose first byte lies in its first range, whose second
-- byte lies in its second range, and so on.
import ProcessMonitor.Pattern.CharSet

namespace ProcessMonitor

/-- A row of byte ranges, one for each byte of a character. -/
abbrev ByteRow := List (UInt8 × UInt8)

namespace ByteRow

/-! ## Rows of a range -/

/-- The last code points that are written with one, two and three bytes. -/
def lengthEnds : List Nat := [0x7F, 0x7FF, 0xFFFF]

/-- How many code points differ in their last byte, their last two and their last
three bytes only. -/
def blocks : List Nat := [0x40, 0x1000, 0x40000]

/-- Where a range that reaches from one block into another has to be cut, so that
it begins and ends with a block. -/
def blockCut? (low high block : Nat) : Option Nat :=
  if low / block == high / block then none
  else if low % block != 0 then some (low - low % block + block - 1)
  else if high % block != block - 1 then some (high - high % block - 1)
  else none

/-- The end of the first part of a range that no single row stands for. -/
def cut? (low high : Nat) : Option Nat :=
  match lengthEnds.find? fun last => low ≤ last && last < high with
  | some last => some last
  | none =>
    if high ≤ CharSet.lastAscii.toNat then none else blocks.findSome? (blockCut? low high)

/-- The row from the bytes of one character to those of another one. -/
def between (low high : Nat) : ByteRow :=
  List.zip (String.utf8EncodeChar (Char.ofNat low)) (String.utf8EncodeChar (Char.ofNat high))

/-- The rows of a range, in rising order. A cut lies inside the range, so both parts
are shorter. -/
def ofRange (low high : Nat) : List ByteRow :=
  match cut? low high with
  | none => [between low high]
  | some last =>
    if _ : low ≤ last ∧ last < high then ofRange low last ++ ofRange (last + 1) high
    else [between low high]
termination_by high - low

/-- The rows of a set, in rising order. -/
def ofSet (chars : CharSet) : List ByteRow :=
  chars.ranges.flatMap fun (low, high) => ofRange low high

/-! ## Beginnings and ends -/

/-- The different beginnings of rows. -/
def starts (rows : List ByteRow) : List ByteRow :=
  (rows.flatMap fun row => (List.range row.length).map fun n => row.take (n + 1)).eraseDups

/-- Puts a row in front of groups of rows that begin alike. -/
def consGroup (row : ByteRow) (groups : List (ByteRow × List ByteRow)) :
    List (ByteRow × List ByteRow) :=
  match groups with
  | (start, rests) :: more =>
    if start == row.take 1 then (start, row.drop 1 :: rests) :: more
    else (row.take 1, [row.drop 1]) :: groups
  | [] => [(row.take 1, [row.drop 1])]

/-- Rows in groups: what a group begins with, and how its rows go on. -/
def groups (rows : List ByteRow) : List (ByteRow × List ByteRow) := rows.foldr consGroup []

/-- The sets of rows that may still follow while a character is read, from all rows
on. A character has four bytes at most. -/
def remainders : Nat → List ByteRow → List (List ByteRow)
  | 0, _ => []
  | bytes + 1, rows =>
    rows :: (groups rows).flatMap fun (_, rests) =>
      if rests.all List.isEmpty then [] else remainders bytes rests

end ByteRow

end ProcessMonitor
