-- White space as Unicode defines it, the words that it parts, and text without
-- the blanks at its ends.

namespace ProcessMonitor.Text

/-- The characters with the property White_Space, as closed ranges. -/
def blankRanges : List (Nat × Nat) :=
  [(0x09, 0x0D), (0x20, 0x20), (0x85, 0x85), (0xA0, 0xA0), (0x1680, 0x1680), (0x2000, 0x200A),
   (0x2028, 0x2029), (0x202F, 0x202F), (0x205F, 0x205F), (0x3000, 0x3000)]

def isBlank (c : Char) : Bool :=
  blankRanges.any fun (low, high) => low ≤ c.toNat && c.toNat ≤ high

/-- The text without the blanks at both ends. -/
def trim (text : List Char) : List Char :=
  ((text.dropWhile isBlank).reverse.dropWhile isBlank).reverse

/-- Puts a character in front of the first word. -/
def consWord (c : Char) : List (List Char) → List (List Char)
  | [] => [[c]]
  | word :: rest => (c :: word) :: rest

/-- The text cut at every character that `cut` holds of. There is always one
piece more than there are cuts. -/
def splitAt (cut : Char → Bool) : List Char → List (List Char)
  | [] => [[]]
  | c :: rest => if cut c then [] :: splitAt cut rest else consWord c (splitAt cut rest)

/-- The words between runs of blanks; none of them is empty. -/
def words (text : List Char) : List (List Char) :=
  (splitAt isBlank text).filter (fun word => !word.isEmpty)

/-- The line without the carriage return that its line break began with. -/
def dropReturn (line : List Char) : List Char :=
  if line.getLast? == some '\r' then line.dropLast else line

/-- The lines of a text. A line break ends a line, so no empty line follows the
last break; a carriage return right before a break belongs to it. -/
def lines (text : List Char) : List (List Char) :=
  let pieces := splitAt (· == '\n') text
  let last := pieces.getLast?.getD []
  pieces.dropLast.map dropReturn ++ if last.isEmpty then [] else [last]

/-- What follows `start`, for a text that begins with it. -/
def after? (start text : List Char) : Option (List Char) :=
  if start.isPrefixOf text then some (text.drop start.length) else none

/-- True when `part` stands somewhere in the text without a gap. -/
def contains (part : List Char) : List Char → Bool
  | [] => part.isEmpty
  | c :: rest => part.isPrefixOf (c :: rest) || contains part rest

end ProcessMonitor.Text
