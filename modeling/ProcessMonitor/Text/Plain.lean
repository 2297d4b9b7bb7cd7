-- Text as a reader sees it: without the sequences that a terminal obeys and
-- without control characters, but with its blanks.

namespace ProcessMonitor.Text

/-- Where in a sequence a character stands. -/
inductive Sequence where
  /-- In no sequence. -/
  | outside
  /-- Right behind the escape. -/
  | escape
  /-- Behind the escape and characters that only announce the last one. -/
  | announced
  /-- Between the bracket and the letter that ends the sequence. -/
  | control
  /-- In a string that a bell ends. -/
  | title
  /-- In a string that only another sequence ends. -/
  | string
deriving DecidableEq, Repr

/-- The blanks among the control characters. -/
def isControlBlank (c : Char) : Bool := c == '\t' || c == '\n' || c == '\x0c' || c == '\r'

namespace Sequence

/-- True in the strings, where every control character belongs to the string. -/
def isString : Sequence → Bool
  | .title => true
  | .string => true
  | _ => false

/-- Where a printable character of ASCII leads, and whether it is seen. -/
def printable (s : Sequence) (c : Char) : Sequence × Bool :=
  match s with
  | .outside => (.outside, true)
  | .escape =>
    if c == '[' then (.control, false)
    else if c == ']' then (.title, false)
    else if c == 'P' || c == 'X' || c == '^' || c == '_' then (.string, false)
    else if c < '0' then (.announced, false)
    else (.outside, false)
  | .announced => (if c < '0' then .announced else .outside, false)
  | .control => (if c < '@' then .control else .outside, false)
  | .title => (.title, false)
  | .string => (.string, false)

/-- Where a character leads, and whether it is seen. -/
def step (s : Sequence) (c : Char) : Sequence × Bool :=
  if c == '\x1b' then (.escape, false)
  else if c == '\x18' || c == '\x1a' then (.outside, false)
  else if c.toNat ≥ 0x80 then (.outside, true)
  else if c == '\x7f' then (s, false)
  else if c.toNat ≥ 0x20 then s.printable c
  else if s == .title && c == '\x07' then (.outside, false)
  else if isControlBlank c && !s.isString then (.outside, true)
  else (s, false)

end Sequence

/-- What is seen of a text that begins in `s`. -/
def seenFrom (s : Sequence) : List Char → List Char
  | [] => []
  | c :: rest =>
    let (next, seen) := s.step c
    if seen then c :: seenFrom next rest else seenFrom next rest

/-- What is seen of a text. -/
def plain (text : String) : String := String.ofList (seenFrom .outside text.toList)

/-- A text that a terminal shows in another style. -/
def styled (text : String) : String := "\x1b[1m" ++ text ++ "\x1b[0m"

end ProcessMonitor.Text
