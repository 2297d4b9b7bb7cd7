-- A whole frame with every step checked: the rows of the screen are handed out, the
-- window of the list is set to them, and each part is drawn.
import ProcessMonitor.Proofs.Checked.Box
import ProcessMonitor.Proofs.Checked.Graph
import ProcessMonitor.Proofs.Checked.Layout
import ProcessMonitor.Proofs.Checked.Table
import ProcessMonitor.Screen.Frame

namespace ProcessMonitor

/-- What a frame relies on: each row of the view is a sample of the pass, and the cells of
every ring are in order. The texts and the numbers may be any. -/
structure Session.Sound (s : Session) : Prop where
  backed : s.table.Backed
  cpu : s.history.cpu.Good
  memory : s.history.memory.Good
  cores : ∀ ring ∈ s.history.cores, ring.Good

namespace Checked

open Screen (Colour Layout Stroke)

/-! ## Bars -/

def header (row width : Nat) (hostname clock : String) : Checked (List Stroke) := do
  let title := " " ++ Screen.programName ++ " " ++ Screen.version ++ "  " ++ hostname
  let clock := clock ++ " "
  let gap := width - (Text.displayWidth title + Text.displayWidth clock)
  let shown ← fit (title ++ Text.spaces gap ++ clock) width
  pure [.moveTo 0 row, .background .darkBlue, .foreground .white, .print shown, .plain]

def stats (row width : Nat) (s : Session) : Checked (List Stroke) := do
  let shown ← fit (Screen.statsText s) width
  pure [.moveTo 0 row, .foreground .cyan, .print shown, .plain]

/-- The message of the last key, or else the selected process. -/
def statusText (s : Session) : Checked (String × Colour) :=
  match s.status with
  | some message => pure (" " ++ message, .yellow)
  | none =>
    if s.table.isEmpty then pure (" No matching processes", .darkGrey)
    else do
      let selected ← selected? s.table
      match selected with
      | some p =>
        pure
          (" " ++ p.command ++ " (PID " ++ toString p.pid ++ ", parent " ++ toString p.parent ++ ")",
            .darkGrey)
      | none => pure ("", .darkGrey)

def status (row width : Nat) (s : Session) : Checked (List Stroke) := do
  let (text, colour) ← statusText s
  let cut ← truncate text width
  let shown ← fit cut width
  pure [.moveTo 0 row, .foreground colour, .print shown, .plain]

def footer (row width : Nat) (s : Session) : Checked (List Stroke) := do
  let (text, ground, ink) := Screen.footerText s
  let cut ← truncate text width
  let shown ← fit cut width
  pure [.moveTo 0 row, .background ground, .foreground ink, .print shown, .plain]

/-! ## The frame -/

/-- A part of the frame that may have been left out. -/
def whenPlaced {α : Type} (place : Option α) (draw : α → Checked (List Stroke)) :
    Checked (List Stroke) :=
  match place with
  | none => pure []
  | some a => draw a

/-- The frame of a session whose table has the rows of the layout. -/
def frame (s : Session) (layout : Layout) (clock : String) : Checked (List Stroke) := do
  let width := layout.width
  let header ← whenPlaced layout.header (header · width s.hostname clock)
  let stats ← whenPlaced layout.stats (stats · width s)
  let graphs ← whenPlaced layout.graphs (graphs · width s)
  let cores ← whenPlaced layout.cores (coreCells · width s.history.cores s.metrics.cores)
  let headings ← whenPlaced layout.tableHeader (columnHeadings · width s.table)
  let rows ← processRows layout s.table
  let status ← whenPlaced layout.status (status · width s)
  let footer ← whenPlaced layout.footer (footer · width s)
  let above ← overlay width layout.height s.mode
  pure (header ++ stats ++ graphs ++ cores ++ headings ++ rows ++ status ++ footer ++ above
    ++ [.plain, .moveTo 0 0])

/-- The frame of a session for a screen of this size, from the layout on. -/
def draw (s : Session) (width height : Nat) (clock : String) : Checked (List Stroke) := do
  let layout ← layout width height s.history.cores.length
  let table ← setRows s.table layout.tableRows
  frame { s with table } layout clock

/-! ## No part goes astray -/

@[simp] theorem header_eq (row width : Nat) (hostname clock : String) :
    header row width hostname clock = pure (Screen.header row width hostname clock) := by
  simp only [header, fit_eq, pure_bind]
  rfl

@[simp] theorem stats_eq (row width : Nat) (s : Session) :
    stats row width s = pure (Screen.stats row width s) := by
  simp only [stats, fit_eq, pure_bind]
  rfl

@[simp] theorem footer_eq (row width : Nat) (s : Session) :
    footer row width s = pure (Screen.footer row width s) := by
  simp only [footer, truncate_eq, fit_eq, pure_bind]
  rfl

theorem whenPlaced_eq {α : Type} {place : Option α} {draw : α → Checked (List Stroke)}
    {plain : α → List Stroke} (h : ∀ a, draw a = pure (plain a)) :
    whenPlaced place draw = pure (Screen.whenPlaced place plain) := by
  cases place with
  | none => rfl
  | some a => exact h a

section Sessions

variable {s : Session}

theorem statusText_eq (h : s.table.Backed) : statusText s = pure (Screen.statusText s) := by
  unfold statusText Screen.statusText
  cases s.status with
  | some message => rfl
  | none =>
    dsimp only
    split
    · rfl
    · rw [selected?_eq h, pure_bind]
      cases s.table.selected? <;> rfl

theorem status_eq (row width : Nat) (h : s.table.Backed) :
    status row width s = pure (Screen.status row width s) := by
  simp only [status, statusText_eq h, truncate_eq, fit_eq, pure_bind]
  rfl

/-- A gauge may be as wide as the screen, so the screen is no wider than a terminal says. -/
theorem frame_eq (h : s.Sound) {layout : Layout} (hwidth : layout.width < 65536)
    (clock : String) : frame s layout clock = pure (Screen.frame s layout clock) := by
  simp only [frame, whenPlaced_eq (header_eq · layout.width s.hostname clock),
    whenPlaced_eq (stats_eq · layout.width s),
    whenPlaced_eq (graphs_eq hwidth · h.cpu h.memory),
    whenPlaced_eq (coreCells_eq · layout.width h.cores s.metrics.cores),
    whenPlaced_eq (columnHeadings_eq · layout.width s.table), processRows_eq layout h.backed,
    whenPlaced_eq (status_eq · layout.width h.backed), whenPlaced_eq (footer_eq · layout.width s),
    overlay_eq, pure_bind]
  rfl

end Sessions

end Checked

end ProcessMonitor
