-- Conditions on a place in a text. A text of `n` characters has `n + 1` places, one
-- in front of each character and one at the end.
import ProcessMonitor.Pattern.CharSet

namespace ProcessMonitor

/-- A condition that a place meets or not. -/
inductive Look where
  | textStart
  | textEnd
  | lineStart
  | lineEnd
  /-- Also a carriage return ends a line, alone or in front of a line break. -/
  | returnStart
  | returnEnd
  /-- Here one side is in a word and the other is not. -/
  | wordBoundary
  | noWordBoundary
  | wordStart
  | wordEnd
  /-- No word lies in front of the place. -/
  | outsideBefore
  | outsideBehind
  /-- A condition on words of all languages. There is no table of their letters
  here, so no pattern may use one. -/
  | unlisted
deriving DecidableEq, Repr

namespace Look

/-- True when the condition holds between two characters; at an end of the text
one of them is missing. -/
def holds (look : Look) (before behind : Option Char) : Bool :=
  let wordBefore := before.any CharSet.isWordCharacter
  let wordBehind := behind.any CharSet.isWordCharacter
  match look with
  | .textStart => before.isNone
  | .textEnd => behind.isNone
  | .lineStart => before.isNone || before == some '\n'
  | .lineEnd => behind.isNone || behind == some '\n'
  | .returnStart =>
    before.isNone || before == some '\n' || (before == some '\r' && behind != some '\n')
  | .returnEnd =>
    behind.isNone || behind == some '\r' || (behind == some '\n' && before != some '\r')
  | .wordBoundary => wordBefore != wordBehind
  | .noWordBoundary => wordBefore == wordBehind
  | .wordStart => !wordBefore && wordBehind
  | .wordEnd => wordBefore && !wordBehind
  | .outsideBefore => !wordBefore
  | .outsideBehind => !wordBehind
  | .unlisted => false

end Look

end ProcessMonitor
