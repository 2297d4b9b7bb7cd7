-- How a part of a pattern is read, and the characters and escapes it is made of.
import ProcessMonitor.Pattern.Look
import ProcessMonitor.Text.Blank

namespace ProcessMonitor.Pattern

/-- How the next part of a pattern is read. -/
structure Flags where
  /-- Letters stand for both cases. -/
  caseless : Bool := false
  /-- The line marks hold at every line. -/
  multiline : Bool := false
  /-- The point matches a line break too. -/
  dotAll : Bool := false
  /-- Carriage returns end lines. -/
  returns : Bool := false
  /-- Classes know ASCII only. -/
  ascii : Bool := false
  /-- Blanks and comments mean nothing. -/
  spaced : Bool := false
  /-- Repetitions are greedy when they are marked as not greedy, and the other way
  round. -/
  swapped : Bool := false
deriving DecidableEq, Repr

/-! ## Blanks -/

/-- The text behind blanks and comments. A comment ends with its line. -/
def dropComments (inComment : Bool) : List Char → List Char
  | [] => []
  | c :: rest =>
    if inComment then dropComments (c != '\n') rest
    else if Text.isBlank c then dropComments false rest
    else if c == '#' then dropComments true rest
    else c :: rest

namespace Flags

/-- The text from its next character that counts. -/
def skip (flags : Flags) (text : List Char) : List Char :=
  if flags.spaced then dropComments false text else text

/-- The character that tells what a dash in brackets means, when `behind` follows the
dash: the next one that is no blank. A first number sign is passed over too, but not
the comment that it begins. When there is no such character, it is the one right
behind the dash. -/
def glance? (flags : Flags) (behind : List Char) : Option Char :=
  if flags.spaced then
    match behind.dropWhile Text.isBlank with
    | '#' :: comment => (comment.dropWhile Text.isBlank).head?.or behind.head?
    | text => text.head?.or behind.head?
  else behind.head?

end Flags

/-! ## Single characters and escapes -/

/-- What one character or one escape stands for. -/
inductive Atom where
  /-- A character; `isByte` when it was written as two digits. -/
  | char (c : Char) (isByte : Bool)
  /-- A short class, or what is not in it. -/
  | short (ranges : List (Char × Char)) (negated : Bool)
  | look (condition : Look)
deriving DecidableEq, Repr

def hexValue? (c : Char) : Option Nat :=
  if c.isDigit then some (c.toNat - '0'.toNat)
  else if 'a' ≤ c && c ≤ 'f' then some (c.toNat - 'a'.toNat + 10)
  else if 'A' ≤ c && c ≤ 'F' then some (c.toNat - 'A'.toNat + 10)
  else none

/-- The character with a number; some numbers belong to none. -/
def charOf? (n : Nat) : Option Char := if n.isValidChar then some (Char.ofNat n) else none

/-- Reads `count` digits onto `value`. -/
def hexDigits? (flags : Flags) : Nat → Nat → List Char → Option (Nat × List Char)
  | 0, value, text => some (value, text)
  | count + 1, value, text =>
    match flags.skip text with
    | [] => none
    | c :: rest => (hexValue? c).bind fun digit => hexDigits? flags count (16 * value + digit) rest

/-- Reads digits up to a closing brace; there must be one. -/
def hexBrace? (flags : Flags) (value : Option Nat) : Nat → List Char → Option (Nat × List Char)
  | 0, _ => none
  | fuel + 1, text =>
    match flags.skip text with
    | [] => none
    | c :: rest =>
      if c == '\x7d' then value.map (·, rest)
      else (hexValue? c).bind fun digit =>
        hexBrace? flags (some (16 * value.getD 0 + digit)) fuel rest

/-- Reads a character that is written as its number: `count` digits, or any
count of them in braces. -/
def numbered? (flags : Flags) (count : Nat) (text : List Char) : Option (Atom × List Char) := do
  match flags.skip text with
  | '\x7b' :: rest =>
    let (n, rest) ← hexBrace? flags none (rest.length + 1) rest
    some (.char (← charOf? n) false, flags.skip rest)
  | digits =>
    let (n, rest) ← hexDigits? flags count 0 digits
    some (.char (← charOf? n) (count == 2), flags.skip rest)

/-- True for the characters that stand for themselves behind a backslash. -/
def isEscapable (c : Char) : Bool :=
  c.toNat < 0x80 && !c.isAlphanum && c != '<' && c != '>'

/-- The conditions on words that are written in braces. -/
def wordLooks : List (String × Look) :=
  [("start", .wordStart), ("end", .wordEnd), ("start-half", .outsideBefore),
   ("end-half", .outsideBehind)]

/-- A condition on words, which needs a table outside of ASCII. -/
def wordLook (flags : Flags) (condition : Look) : Atom :=
  .look (if flags.ascii then condition else .unlisted)

/-- Reads the letters of a condition in braces. -/
def braceWord (flags : Flags) : Nat → List Char → List Char × List Char
  | 0, text => ([], text)
  | fuel + 1, text =>
    match flags.skip text with
    | [] => ([], [])
    | c :: rest =>
      if c.isAlpha || c == '-' then
        let (word, rest) := braceWord flags fuel rest
        (c :: word, rest)
      else ([], c :: rest)

/-- Reads what follows the letter of a word boundary. A brace with a letter
behind it names the condition; any other brace is left for a count. -/
def boundary? (flags : Flags) (text : List Char) : Option (Atom × List Char) :=
  match text with
  | '\x7b' :: inner =>
    match flags.skip inner with
    | [] => none
    | c :: _ =>
      if c.isAlpha || c == '-' then
        let (word, rest) := braceWord flags inner.length inner
        match rest, wordLooks.lookup (String.ofList word) with
        | '\x7d' :: rest, some condition => some (wordLook flags condition, rest)
        | _, _ => none
      else some (wordLook flags .wordBoundary, text)
  | _ => some (wordLook flags .wordBoundary, text)

/-- Reads an escape behind its backslash. -/
def escape? (flags : Flags) : List Char → Option (Atom × List Char)
  | [] => none
  | c :: rest =>
    match c with
    | 'x' => numbered? flags 2 rest
    | 'u' => numbered? flags 4 rest
    | 'U' => numbered? flags 8 rest
    | 'd' => some (.short CharSet.digits false, rest)
    | 'D' => some (.short CharSet.digits true, rest)
    | 's' => some (.short CharSet.blanks false, rest)
    | 'S' => some (.short CharSet.blanks true, rest)
    | 'w' => some (.short CharSet.wordCharacters false, rest)
    | 'W' => some (.short CharSet.wordCharacters true, rest)
    | 'a' => some (.char '\x07' false, rest)
    | 'f' => some (.char '\x0c' false, rest)
    | 't' => some (.char '\t' false, rest)
    | 'n' => some (.char '\n' false, rest)
    | 'r' => some (.char '\r' false, rest)
    | 'v' => some (.char '\x0b' false, rest)
    | 'A' => some (.look .textStart, rest)
    | 'z' => some (.look .textEnd, rest)
    | 'b' => boundary? flags rest
    | 'B' => some (wordLook flags .noWordBoundary, rest)
    | '<' => some (wordLook flags .wordStart, rest)
    | '>' => some (wordLook flags .wordEnd, rest)
    | _ => if isEscapable c then some (.char c false, rest) else none

/-- Reads one character or escape. -/
def atom? (flags : Flags) : List Char → Option (Atom × List Char)
  | [] => none
  | '\\' :: rest => escape? flags rest
  | c :: rest => some (.char c false, rest)

end ProcessMonitor.Pattern
