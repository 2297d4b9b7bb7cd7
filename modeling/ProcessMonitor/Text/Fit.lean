-- Text cut and padded to a number of columns. A glyph that would straddle the
-- edge is dropped, never split.
import ProcessMonitor.Text.Width

namespace ProcessMonitor.Text

/-! ## Cutting -/

/-- The longest beginning that takes at most `room` columns. -/
def clipChars (room : Nat) : List Char → List Char
  | [] => []
  | c :: rest => if charWidth c ≤ room then c :: clipChars (room - charWidth c) rest else []

/-- The longest end that takes at most `room` columns. -/
def clipTailChars (room : Nat) (text : List Char) : List Char :=
  (clipChars room text.reverse).reverse

def displayWidth (text : String) : Nat := width text.toList

def clip (text : String) (room : Nat) : String := String.ofList (clipChars room text.toList)

def clipTail (text : String) (room : Nat) : String := String.ofList (clipTailChars room text.toList)

def ellipsis : String := "..."

/-- The text itself when it fits. Otherwise as much of it as leaves room for
three dots, or as much as fits where the dots alone would not. -/
def truncate (text : String) (room : Nat) : String :=
  if displayWidth text ≤ room then text
  else if room > 3 then clip text (room - 3) ++ ellipsis
  else clip text room

/-- What of a text goes into `room` columns, and the room that is left. -/
def put (room : Nat) (text : String) : String × Nat :=
  let kept := clip text room
  (kept, room - displayWidth kept)

/-! ## Padding -/

def spaces (n : Nat) : String := String.ofList (List.replicate n ' ')

def copies (n : Nat) (c : Char) : String := String.ofList (List.replicate n c)

/-- The text cut or padded to exactly `room` columns. -/
def fit (text : String) (room : Nat) : String :=
  let kept := clip text room
  kept ++ spaces (room - displayWidth kept)

/-- Spaces in front, up to `count` characters. Longer text stays as it is. -/
def padLeft (count : Nat) (text : String) : String := spaces (count - text.length) ++ text

/-- Spaces behind, up to `count` characters. Longer text stays as it is. -/
def padRight (count : Nat) (text : String) : String := text ++ spaces (count - text.length)

end ProcessMonitor.Text
