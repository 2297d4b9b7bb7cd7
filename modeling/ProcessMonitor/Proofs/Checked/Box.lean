-- Boxes with every border and every row between the borders checked.
import ProcessMonitor.Proofs.Checked.Text
import ProcessMonitor.Proofs.FrameParts

namespace ProcessMonitor.Checked

open Screen (Box Colour Stroke)

/-! ## Borders -/

/-- A box of the wanted size in the middle of the screen, shrunk to fit. -/
def centered? (screenWidth screenHeight width height : Nat) (background : Colour) :
    Checked (Option Box) :=
  let width := min width screenWidth
  let height := min height screenHeight
  if width < Box.minWidth || height < Box.minHeight then pure none
  else do
    let beside ← minus screenWidth width
    let above ← minus screenHeight height
    pure (some ⟨beside / 2, above / 2, width, height, background⟩)

def innerWidth (box : Box) : Checked Nat := minus box.width 2

def innerHeight (box : Box) : Checked Nat := minus box.height 2

/-- Line `row` of the inside. -/
def line (box : Box) (row : Nat) (text : String) (colour : Colour) : Checked (List Stroke) := do
  let rows ← innerHeight box
  if row ≥ rows then pure []
  else do
    let inner ← innerWidth box
    let shown ← fit text inner
    pure
      [.moveTo box.x (box.y + 1 + row), .background box.background, .foreground .white, .print "│",
        .foreground colour, .print shown, .foreground .white, .print "│", .plain]

/-- The upper border with the title in its middle. -/
def topBorder (box : Box) (title : String) : Checked (List Stroke) := do
  let inner ← innerWidth box
  let title ← clip title inner
  let used := Text.displayWidth title
  let beside ← minus inner used
  let left := beside / 2
  let rest ← minus inner left
  let right ← minus rest used
  pure
    [.moveTo box.x box.y, .background box.background, .foreground .white,
      .print ("┌" ++ Text.copies left '─'), .foreground .yellow, .print title,
      .foreground .white, .print (Text.copies right '─' ++ "┐"), .plain]

def bottomBorder (box : Box) : Checked (List Stroke) := do
  let inner ← innerWidth box
  let last ← minus (box.y + box.height) 1
  pure
    [.moveTo box.x last, .background box.background, .foreground .white,
      .print ("└" ++ Text.copies inner '─' ++ "┘"), .plain]

/-- The border with a blank inside. -/
def boxFrame (box : Box) (title : String) : Checked (List Stroke) := do
  let top ← topBorder box title
  let rows ← innerHeight box
  let inside ← drawAll (List.range rows) fun row => line box row "" .white
  let bottom ← bottomBorder box
  pure (top ++ inside ++ bottom)

/-- A box that holds `lines`, each in its own colour. -/
def modal (screenWidth screenHeight width : Nat) (background : Colour) (title : String)
    (lines : List (String × Colour)) : Checked (List Stroke) := do
  let place ← centered? screenWidth screenHeight width (lines.length + 2) background
  match place with
  | none => pure []
  | some box => do
    let border ← boxFrame box title
    let inside ← drawAll lines.zipIdx fun ((text, colour), row) => line box row text colour
    pure (border ++ inside)

/-! ## Prompts -/

def killQuestion (width height : Nat) (pid : Int) (command : String) : Checked (List Stroke) := do
  let inner := min Screen.promptWidth width - 2
  let command ← truncate command (inner - 2)
  modal width height Screen.promptWidth .darkRed " Kill Process "
    [(" Send SIGTERM to PID " ++ toString pid ++ "?", .white),
     (" " ++ command, .grey),
     ("", .white),
     (" y: Confirm    any other key: Cancel", .yellow),
     ("", .white)]

def filterLine (width height : Nat) (buffer : String) : Checked (List Stroke) := do
  let room := min Screen.promptWidth width - 5
  let shown ← clipTail buffer room
  modal width height Screen.promptWidth .darkBlue " Filter (command or user) "
    [(" " ++ shown ++ "█", .white),
     ("", .white),
     (" Enter: Apply    Esc: Cancel", .yellow)]

def help (width height : Nat) : Checked (List Stroke) :=
  modal width height Screen.helpWidth .darkBlue " Keyboard Shortcuts "
    (("", .white) :: Screen.helpLines.map (fun (keys, meaning) => Screen.helpLine keys meaning)
      ++ [("        Press any key to close", .yellow)])

/-- What stands over the frame in each mode. -/
def overlay (width height : Nat) : Mode → Checked (List Stroke)
  | .normal => pure []
  | .filterEntry buffer => filterLine width height buffer
  | .confirmKill pid command => killQuestion width height pid command
  | .help => help width height

/-! ## No border goes astray -/

@[simp] theorem centered?_eq (screenWidth screenHeight width height : Nat) (background : Colour) :
    centered? screenWidth screenHeight width height background =
      pure (Box.centered? screenWidth screenHeight width height background) := by
  have hbeside := minus_of_le (Nat.min_le_right width screenWidth)
  have habove := minus_of_le (Nat.min_le_right height screenHeight)
  unfold centered? Box.centered?
  dsimp only
  split
  · rfl
  · simp only [hbeside, habove, pure_bind]

section Framed

variable {box : Box} (hwidth : 2 ≤ box.width) (hheight : 2 ≤ box.height)

include hwidth hheight

theorem line_eq (row : Nat) (text : String) (colour : Colour) :
    line box row text colour = pure (box.line row text colour) := by
  simp only [line, innerHeight, innerWidth, minus_of_le hwidth, minus_of_le hheight, fit_eq,
    pure_bind, ite_pure]
  rfl

omit hheight in
theorem topBorder_eq (title : String) : topBorder box title = pure (box.topBorder title) := by
  have hused : Text.displayWidth (Text.clip title (box.width - 2)) ≤ box.width - 2 :=
    Text.displayWidth_clip_le title (box.width - 2)
  have hleft : (box.width - 2 - Text.displayWidth (Text.clip title (box.width - 2))) / 2 ≤
      box.width - 2 := by omega
  have hright : Text.displayWidth (Text.clip title (box.width - 2)) ≤ box.width - 2 -
      (box.width - 2 - Text.displayWidth (Text.clip title (box.width - 2))) / 2 := by omega
  simp only [topBorder, innerWidth, minus_of_le hwidth, clip_eq, minus_of_le hused,
    minus_of_le hleft, minus_of_le hright, pure_bind]
  rfl

theorem bottomBorder_eq : bottomBorder box = pure box.bottomBorder := by
  have hlast : 1 ≤ box.y + box.height := by omega
  simp only [bottomBorder, innerWidth, minus_of_le hwidth, minus_of_le hlast, pure_bind]
  rfl

theorem boxFrame_eq (title : String) : boxFrame box title = pure (box.frame title) := by
  have hinside : drawAll (List.range (box.height - 2)) (fun row => line box row "" .white) =
      pure ((List.range (box.height - 2)).flatMap fun row => box.line row "" .white) :=
    drawAll_eq_pure fun row _ => line_eq hwidth hheight row "" .white
  simp only [boxFrame, topBorder_eq hwidth, innerHeight, minus_of_le hheight, hinside,
    bottomBorder_eq hwidth hheight, pure_bind]
  rfl

end Framed

/-- A box that finds room on the screen has room for its borders. -/
@[simp] theorem modal_eq (screenWidth screenHeight width : Nat) (background : Colour)
    (title : String) (lines : List (String × Colour)) :
    modal screenWidth screenHeight width background title lines =
      pure (Screen.modal screenWidth screenHeight width background title lines) := by
  simp only [modal, Screen.modal, centered?_eq, pure_bind]
  cases hplace : Box.centered? screenWidth screenHeight width (lines.length + 2) background with
  | none => rfl
  | some box =>
    have hfits := Box.fits_of_centered hplace
    have hinside : drawAll lines.zipIdx (fun ((text, colour), row) => line box row text colour) =
        pure (lines.zipIdx.flatMap fun ((text, colour), row) => box.line row text colour) :=
      drawAll_eq_pure fun entry _ => line_eq hfits.columns.1 hfits.rows.1 _ _ _
    simp only [boxFrame_eq hfits.columns.1 hfits.rows.1, hinside, pure_bind]

@[simp] theorem overlay_eq (width height : Nat) (mode : Mode) :
    overlay width height mode = pure (Screen.overlay width height mode) := by
  cases mode with
  | normal => rfl
  | filterEntry buffer =>
    simp only [overlay, filterLine, clipTail_eq, modal_eq, pure_bind]
    rfl
  | confirmKill pid command =>
    simp only [overlay, killQuestion, truncate_eq, modal_eq, pure_bind]
    rfl
  | help => exact modal_eq _ _ _ _ _ _

end ProcessMonitor.Checked
