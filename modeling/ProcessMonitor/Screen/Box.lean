-- Boxes in the middle of the screen: a border with a title around lines of
-- text. A screen that cannot hold a border shows no box.
import ProcessMonitor.Screen.Stroke

namespace ProcessMonitor.Screen

/-- A box with a border. -/
structure Box where
  x : Nat
  y : Nat
  width : Nat
  height : Nat
  background : Colour
deriving DecidableEq, Repr

namespace Box

/-- The smallest box: its border and a little inside. -/
def minWidth : Nat := 4

def minHeight : Nat := 3

/-- A box of the wanted size in the middle of the screen, shrunk to fit. -/
def centered? (screenWidth screenHeight width height : Nat) (background : Colour) : Option Box :=
  let width := min width screenWidth
  let height := min height screenHeight
  if width < minWidth || height < minHeight then none
  else some ⟨(screenWidth - width) / 2, (screenHeight - height) / 2, width, height, background⟩

/-- Columns between the borders. -/
def innerWidth (box : Box) : Nat := box.width - 2

/-- Rows between the borders. -/
def innerHeight (box : Box) : Nat := box.height - 2

/-- Line `row` of the inside, cut or padded to the inner width. Lines past the
border are not drawn. -/
def line (box : Box) (row : Nat) (text : String) (colour : Colour) : List Stroke :=
  if row ≥ box.innerHeight then []
  else
    [.moveTo box.x (box.y + 1 + row), .background box.background, .foreground .white, .print "│",
      .foreground colour, .print (Text.fit text box.innerWidth),
      .foreground .white, .print "│", .plain]

/-- The upper border with the title in its middle. -/
def topBorder (box : Box) (title : String) : List Stroke :=
  let title := Text.clip title box.innerWidth
  let used := Text.displayWidth title
  let left := (box.innerWidth - used) / 2
  let right := box.innerWidth - left - used
  [.moveTo box.x box.y, .background box.background, .foreground .white,
    .print ("┌" ++ Text.copies left '─'), .foreground .yellow, .print title,
    .foreground .white, .print (Text.copies right '─' ++ "┐"), .plain]

def bottomBorder (box : Box) : List Stroke :=
  [.moveTo box.x (box.y + box.height - 1), .background box.background, .foreground .white,
    .print ("└" ++ Text.copies box.innerWidth '─' ++ "┘"), .plain]

/-- The border with a blank inside. -/
def frame (box : Box) (title : String) : List Stroke :=
  box.topBorder title
    ++ (List.range box.innerHeight).flatMap (fun row => box.line row "" .white)
    ++ box.bottomBorder

end Box

/-- A box that holds `lines`, each in its own colour. -/
def modal (screenWidth screenHeight width : Nat) (background : Colour) (title : String)
    (lines : List (String × Colour)) : List Stroke :=
  match Box.centered? screenWidth screenHeight width (lines.length + 2) background with
  | none => []
  | some box =>
    box.frame title ++ lines.zipIdx.flatMap fun ((text, colour), row) => box.line row text colour

end ProcessMonitor.Screen
