-- Sets of characters as a pattern names them, and the named sets of ASCII. A set
-- is kept in one form only, so two sets are equal when they hold the same
-- characters.

namespace ProcessMonitor

/-- A set of characters, as closed ranges of code points. The ranges rise and do
not touch, and none of them holds a code point without a character. -/
structure CharSet where
  ranges : List (Nat × Nat)
deriving DecidableEq, Repr

namespace CharSet

/-! ## Ranges -/

/-- The code points that belong to no character. -/
def surrogates : Nat × Nat := (0xD800, 0xDFFF)

/-- The last code point. -/
def lastCode : Nat := 0x10FFFF

/-- Adds a range; ranges that touch it become one with it. -/
def insertRange (low high : Nat) : List (Nat × Nat) → List (Nat × Nat)
  | [] => [(low, high)]
  | (first, last) :: rest =>
    if high + 1 < first then (low, high) :: (first, last) :: rest
    else if last + 1 < low then (first, last) :: insertRange low high rest
    else insertRange (min low first) (max high last) rest

/-- The code points from `start` on that are in none of the ranges. -/
def gaps (start : Nat) : List (Nat × Nat) → List (Nat × Nat)
  | [] => if start ≤ lastCode then [(start, lastCode)] else []
  | (first, last) :: rest =>
    if start < first then (start, first - 1) :: gaps (last + 1) rest else gaps (last + 1) rest

/-- The ASCII letters from `letter` on in a range, in the case that begins with
`other`. -/
def otherCase (letter other : Char) (range : Nat × Nat) : Option (Nat × Nat) :=
  let low := max range.1 letter.toNat
  let high := min range.2 (letter.toNat + 25)
  if low ≤ high then some (low - letter.toNat + other.toNat, high - letter.toNat + other.toNat)
  else none

/-! ## Sets -/

def contains (set : CharSet) (c : Char) : Bool :=
  set.ranges.any fun (low, high) => low ≤ c.toNat && c.toNat ≤ high

def empty : CharSet := ⟨[]⟩

/-- The characters from `low` to `high`. -/
def range (low high : Char) : CharSet :=
  if low.toNat < surrogates.1 && surrogates.2 < high.toNat then
    ⟨[(low.toNat, surrogates.1 - 1), (surrogates.2 + 1, high.toNat)]⟩
  else ⟨[(low.toNat, high.toNat)]⟩

def single (c : Char) : CharSet := ⟨[(c.toNat, c.toNat)]⟩

/-- A set with more ranges. -/
def insertAll (set : CharSet) (ranges : List (Nat × Nat)) : CharSet :=
  ⟨ranges.foldl (fun all (low, high) => insertRange low high all) set.ranges⟩

def union (a b : CharSet) : CharSet := a.insertAll b.ranges

def compl (a : CharSet) : CharSet := ⟨gaps 0 (insertRange surrogates.1 surrogates.2 a.ranges)⟩

def inter (a b : CharSet) : CharSet := (a.compl.union b.compl).compl

def diff (a b : CharSet) : CharSet := a.inter b.compl

/-- What stands in one of both, but not in both. -/
def either (a b : CharSet) : CharSet := (a.diff b).union (b.diff a)

/-- With each ASCII letter the same letter in the other case. -/
def anyCase (a : CharSet) : CharSet :=
  (a.insertAll (a.ranges.filterMap (otherCase 'A' 'a'))).insertAll
    (a.ranges.filterMap (otherCase 'a' 'A'))

/-- All characters. -/
def all : CharSet := empty.compl

def ofRanges (ranges : List (Char × Char)) : CharSet :=
  ranges.foldl (fun set (low, high) => set.union (range low high)) empty

/-- The character of a set that holds no other one. -/
def only? (set : CharSet) : Option Char :=
  match set.ranges with
  | [(low, high)] => if low == high then some (Char.ofNat low) else none
  | _ => none

/-! ## Sets of ASCII -/

/-- The last character of ASCII. -/
def lastAscii : Char := '\x7f'

/-- True when nothing in the set is outside of ASCII. -/
def isAscii (set : CharSet) : Bool := set.ranges.all fun (_, high) => high ≤ lastAscii.toNat

def digits : List (Char × Char) := [('0', '9')]

def blanks : List (Char × Char) := [('\t', '\r'), (' ', ' ')]

def wordCharacters : List (Char × Char) := [('0', '9'), ('A', 'Z'), ('_', '_'), ('a', 'z')]

/-- The sets of ASCII that have names. -/
def named : List (String × List (Char × Char)) :=
  [("alnum", [('0', '9'), ('A', 'Z'), ('a', 'z')]),
   ("alpha", [('A', 'Z'), ('a', 'z')]),
   ("ascii", [('\x00', lastAscii)]),
   ("blank", [('\t', '\t'), (' ', ' ')]),
   ("cntrl", [('\x00', '\x1f'), (lastAscii, lastAscii)]),
   ("digit", digits),
   ("graph", [('!', '~')]),
   ("lower", [('a', 'z')]),
   ("print", [(' ', '~')]),
   ("punct", [('!', '/'), (':', '@'), ('[', '\x60'), ('\x7b', '~')]),
   ("space", blanks),
   ("upper", [('A', 'Z')]),
   ("word", wordCharacters),
   ("xdigit", [('0', '9'), ('A', 'F'), ('a', 'f')])]

/-- True for the characters of ASCII words. -/
def isWordCharacter (c : Char) : Bool := (ofRanges wordCharacters).contains c

end CharSet

end ProcessMonitor
