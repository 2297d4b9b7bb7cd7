-- What can be done to the terminal: move the cursor, choose colours, write
-- text. A frame is a list of strokes, and one printer turns strokes into the
-- characters that the terminal understands.
import ProcessMonitor.Text.Fit

namespace ProcessMonitor.Screen

/-- The colours in use. `unset` is the terminal's own. -/
inductive Colour where
  | unset
  | black
  | darkRed
  | darkYellow
  | darkBlue
  | darkCyan
  | grey
  | darkGrey
  | red
  | green
  | yellow
  | cyan
  | white
deriving DecidableEq, Repr

namespace Colour

/-- The place of a colour in the palette of 256. -/
def palette? : Colour → Option Nat
  | .unset => none
  | .black => some 0
  | .darkRed => some 1
  | .darkYellow => some 3
  | .darkBlue => some 4
  | .darkCyan => some 6
  | .grey => some 7
  | .darkGrey => some 8
  | .red => some 9
  | .green => some 10
  | .yellow => some 11
  | .cyan => some 14
  | .white => some 15

end Colour

/-- One thing done to the terminal. Columns and rows count from 0. -/
inductive Stroke where
  | moveTo (column row : Nat)
  | foreground (colour : Colour)
  | background (colour : Colour)
  /-- Both colours become the terminal's own. -/
  | plain
  | print (text : String)
deriving DecidableEq, Repr

namespace Stroke

/-- The beginning of every control sequence. -/
def sequenceStart : String := "\x1b["

/-- The terminal counts from 1 and in 16 bits. -/
def coordinate (n : Nat) : String := toString (n % 65536 + 1)

/-- The characters of one stroke. -/
def encode : Stroke → String
  | .moveTo column row => sequenceStart ++ coordinate row ++ ";" ++ coordinate column ++ "H"
  | .foreground colour =>
    match colour.palette? with
    | some n => sequenceStart ++ "38;5;" ++ toString n ++ "m"
    | none => sequenceStart ++ "39m"
  | .background colour =>
    match colour.palette? with
    | some n => sequenceStart ++ "48;5;" ++ toString n ++ "m"
    | none => sequenceStart ++ "49m"
  | .plain => sequenceStart ++ "0m"
  | .print text => text

/-- The characters of strokes in order. -/
def encodeAll (strokes : List Stroke) : String := String.join (strokes.map encode)

/-- The first `room` characters of strokes. What is left of a stroke that breaks off
is text. -/
def cut : Nat → List Stroke → List Stroke
  | _, [] => []
  | room, stroke :: rest =>
    let text := stroke.encode
    if text.length ≤ room then stroke :: cut (room - text.length) rest
    else [.print (String.ofList (text.toList.take room))]

end Stroke

/-- Coloured pieces written one after the other into `room` columns, and the
room that is left. -/
def putPieces : Nat → List (Colour × String) → List Stroke × Nat
  | room, [] => ([], room)
  | room, (colour, text) :: rest =>
    let (kept, left) := Text.put room text
    let (strokes, final) := putPieces left rest
    (.foreground colour :: .print kept :: strokes, final)

end ProcessMonitor.Screen
