-- The laws of a whole frame. The parts of the layout stand one below the other from
-- the first row of the screen to the last, so a frame writes every cell of it and
-- nothing outside, in colours of its own.
import ProcessMonitor.Proofs.FrameText
import ProcessMonitor.Proofs.LayoutRows
import ProcessMonitor.Proofs.TableRuns

namespace ProcessMonitor.Screen

/-! ## The parts of a frame -/

theorem block_whenPlaced {α : Type} {place : Option α} {rows : α → Nat} {draw : α → List Stroke}
    {y width : Nat} (hy : y + rowsOf place rows ≤ 65536)
    (h : ∀ a, place = some a → y + rows a ≤ 65536 → IsBlock 0 y width (rows a) (draw a)) :
    IsBlock 0 y width (rowsOf place rows) (whenPlaced place draw) := by
  cases place with
  | none => exact block_nil
  | some a => exact h a rfl hy

/-- A part of one row. -/
theorem block_row {place : Option Nat} {draw : Nat → List Stroke} {y width : Nat}
    (hy : y + oneRow place ≤ 65536) (hplace : ∀ row, place = some row → row = y)
    (h : ∀ row, IsLine 0 row width (draw row)) :
    IsBlock 0 y width (oneRow place) (whenPlaced place draw) := by
  refine block_whenPlaced hy fun row hrow hlt => ?_
  rw [hplace row hrow]
  exact (h y).block (by decide) hlt

theorem inside_end (columns rows : Nat) : Inside 0 0 columns rows [.plain, .moveTo 0 0] :=
  fun _ _ _ hw => absurd hw List.not_mem_nil

section Frame

variable (s : Session) {layout : Layout} (h : layout.Stacked) (clock : String)
  (hwidth : layout.width ≤ 65536) (hheight : layout.height ≤ 65536)

include h hwidth hheight in
/-- The frame fills its screen. -/
theorem block_frame : IsBlock 0 0 layout.width layout.height (frame s layout clock) := by
  have hend := h.height
  have htop := h.tableTop
  have hheader : IsBlock 0 0 layout.width (oneRow layout.header)
      (whenPlaced layout.header (header · layout.width s.hostname clock)) :=
    block_row (by omega) h.header fun row => isLine_header row _ _ _
  have hstats : IsBlock 0 (0 + oneRow layout.header) layout.width (oneRow layout.stats)
      (whenPlaced layout.stats (stats · layout.width s)) :=
    block_row (by omega) (by simpa using h.stats) fun row => isLine_stats row _ _
  have hgraphs : IsBlock 0 (0 + (oneRow layout.header + oneRow layout.stats)) layout.width
      (rowsOf layout.graphs GraphArea.rows)
      (whenPlaced layout.graphs (graphs · layout.width s)) := by
    refine block_whenPlaced (by omega) fun area harea hrows => ?_
    obtain ⟨harea, hwide⟩ := h.graphs area harea
    unfold graphMinWidth at hwide
    rw [Nat.zero_add, ← harea] at hrows ⊢
    exact block_graphs area s (by omega) hwidth hrows
  have hcores : IsBlock 0 (0 + (oneRow layout.header + oneRow layout.stats +
      rowsOf layout.graphs GraphArea.rows)) layout.width (rowsOf layout.cores CoreArea.rows)
      (whenPlaced layout.cores (coreCells · layout.width s.history.cores s.metrics.cores)) := by
    refine block_whenPlaced (by omega) fun area harea hrows => ?_
    rw [Nat.zero_add, ← h.cores area harea] at hrows ⊢
    exact block_coreCells area _ _ _ hrows
  have hheadings : IsBlock 0 (0 + (oneRow layout.header + oneRow layout.stats +
      rowsOf layout.graphs GraphArea.rows + rowsOf layout.cores CoreArea.rows)) layout.width
      (oneRow layout.tableHeader)
      (whenPlaced layout.tableHeader (columnHeadings · layout.width s.table)) :=
    block_row (by omega) (by simpa using h.tableHeader) fun row => isLine_columnHeadings row _ _
  have hprocesses : IsBlock 0 (0 + (oneRow layout.header + oneRow layout.stats +
      rowsOf layout.graphs GraphArea.rows + rowsOf layout.cores CoreArea.rows +
      oneRow layout.tableHeader)) layout.width layout.tableRows (processRows layout s.table) := by
    rw [Nat.zero_add, ← htop]
    exact block_processRows layout s.table (by omega)
  have hstatus : IsBlock 0 (0 + (oneRow layout.header + oneRow layout.stats +
      rowsOf layout.graphs GraphArea.rows + rowsOf layout.cores CoreArea.rows +
      oneRow layout.tableHeader + layout.tableRows)) layout.width (oneRow layout.status)
      (whenPlaced layout.status (status · layout.width s)) := by
    rw [Nat.zero_add, ← htop]
    exact block_row (by omega) h.status fun row => isLine_status row _ _
  have hfooter : IsBlock 0 (0 + (oneRow layout.header + oneRow layout.stats +
      rowsOf layout.graphs GraphArea.rows + rowsOf layout.cores CoreArea.rows +
      oneRow layout.tableHeader + layout.tableRows + oneRow layout.status)) layout.width
      (oneRow layout.footer) (whenPlaced layout.footer (footer · layout.width s)) := by
    rw [Nat.zero_add, ← htop]
    exact block_row (by omega) h.footer fun row => isLine_footer row _ _
  have hall := ((((((hheader.above hstats).above hgraphs).above hcores).above hheadings).above
    hprocesses).above hstatus).above hfooter
  rw [← htop, hend] at hall
  exact (hall.over (inside_overlay hwidth hheight s.mode)).over (inside_end _ _)

/-- The first line of a frame settles the cursor and both colours before its text. -/
theorem written_frame (hfirst : layout.header = some 0) (settled other : Settled) :
    written settled (signsOf (frame s layout clock)) =
      written other (signsOf (frame s layout clock)) := by
  unfold frame
  rw [hfirst]
  simp only [List.append_assoc, signsOf_append, written_append]
  rfl

end Frame

/-- A frame writes the same glyphs, in the same places and colours, whatever was settled
before it. A screen without rows gets no glyph. -/
theorem written_nothing_frame (s : Session) (width height count : Nat) (clock : String)
    (hwidth : width ≤ 65536) (hheight : height ≤ 65536) {settled : Settled}
    (hsettled : settled.Coloured) :
    written Settled.nothing (signsOf (frame s (Layout.compute width height count) clock)) =
      written settled (signsOf (frame s (Layout.compute width height count) clock)) := by
  -- Without a row there is no header that settles anything, and no glyph either.
  by_cases hrows : height ≥ 1
  · exact written_frame s clock (if_pos hrows) _ _
  · have hblock := block_frame s (Layout.stacked_compute width height count) clock hwidth hheight
    have hnone : written settled
        (signsOf (frame s (Layout.compute width height count) clock)) = [] := by
      rw [List.eq_nil_iff_forall_not_mem]
      intro w hw
      obtain ⟨row, _, _, ⟨_, hrow⟩, _⟩ := hblock.inside settled hsettled w hw
      have hempty : (Layout.compute width height count).height = height := rfl
      omega
    have hglyphs := glyphs_written Settled.nothing settled
      (signsOf (frame s (Layout.compute width height count) clock))
    rw [hnone, List.map_nil, List.map_eq_nil_iff] at hglyphs
    rw [hnone, hglyphs]

/-! ## The laws -/

/-- The frame of any session, on a screen of any size, for a host with any count of
processors. When no text that the screen shows of the session has control characters, no
text that the frame prints has any. And when none of those has any, a terminal reads
the frame as moves, colours and glyphs. Each glyph stands on the screen, in colours
that the frame itself has set, and every cell of the screen is written. So any two
terminals show the same after it, whatever they showed before. -/
theorem a_frame_covers_the_screen (s : Session) (clock : String) (width height count : Nat)
    (hwidth : width < 65536) (hheight : height < 65536) :
    let layout := Layout.compute width height count
    let shown := { s with table := s.table.setRows layout.tableRows }
    let strokes := frame shown layout clock
    ((∀ text ∈ clock :: shown.texts, Text.Clean text) →
      ∀ printed, .print printed ∈ strokes → Text.Clean printed) ∧
    ((∀ printed, .print printed ∈ strokes → Text.Clean printed) →
      ∃ signs, read? (Stroke.encodeAll strokes) = some signs ∧
        (∀ w ∈ written Settled.nothing signs, w.Within 0 0 width height) ∧
        (∀ row < height, ∀ column < width,
          ∃ w ∈ written Settled.nothing signs, w.Covers row column) ∧
        ∀ before other : Terminal, ∀ row < height, ∀ column < width,
          (before.obeyAll signs).Alike (other.obeyAll signs) row column) := by
  intro layout shown strokes
  refine ⟨fun hclean printed => ?_, fun hclean => ?_⟩
  · obtain ⟨hclock, htexts⟩ := List.forall_mem_cons.mp hclean
    exact clean_frame htexts layout hclock (.print printed)
  have hblock := block_frame shown (Layout.stacked_compute width height count) clock
    (Nat.le_of_lt hwidth) (Nat.le_of_lt hheight)
  obtain ⟨settled, hsettled⟩ : ∃ settled : Settled, settled.Coloured :=
    ⟨⟨none, some none, some none⟩, rfl, rfl⟩
  have hsame := written_nothing_frame shown width height count clock (Nat.le_of_lt hwidth)
    (Nat.le_of_lt hheight) hsettled
  have hwithin : ∀ w ∈ written Settled.nothing (signsOf strokes), w.Within 0 0 width height := by
    rw [hsame]
    exact hblock.inside settled hsettled
  have hcovers : ∀ row < height, ∀ column < width,
      ∃ w ∈ written Settled.nothing (signsOf strokes), w.Covers row column := by
    intro row hrow column hcolumn
    rw [hsame]
    exact hblock.full settled hsettled row column (Nat.zero_le _) (by rwa [Nat.zero_add])
      (Nat.zero_le _) (by rwa [Nat.zero_add])
  refine ⟨_, read?_encodeAll (clean_of_printed hclean), hwithin, hcovers, ?_⟩
  intro before other row hrow column hcolumn
  refine Terminal.alike_obeyAll (Terminal.follows_nothing before) (Terminal.follows_nothing other)
    ?_ (Or.inl (hcovers row hrow column hcolumn))
  intro w hw
  obtain ⟨_, _, hplace, _, _, hcoloured⟩ := hwithin w hw
  exact ⟨by rw [hplace]; rfl, hcoloured⟩

/-- A process with glyphs of two columns in its command. -/
def wideSample : ProcessSample :=
  ⟨7, 1, "root", zeroPercent, zeroPercent, 0, 0, 'S', "日本語", 20, 0, 1⟩

/-- A process with a line break in its command. -/
def brokenSample : ProcessSample := { wideSample with pid := 8, command := "a\nb" }

/-- A list of keys over a process with wide glyphs leaves no cell of the screen out. There
is one row for processes, so the line break of the second one does no harm. -/
theorem a_box_over_wide_glyphs_leaves_no_cell_out :
    let listed := { Session.default.table with
      samples := [wideSample, brokenSample], view := [(wideSample, 0), (brokenSample, 1)] }
    let s := { Session.default with table := listed, mode := .help }
    let layout := Layout.compute 80 6 0
    let strokes := frame { s with table := s.table.setRows layout.tableRows } layout "12:00:00"
    80 < 65536 ∧ 6 < 65536 ∧ ¬ Text.Clean brokenSample.command ∧
      (∀ printed, .print printed ∈ strokes → Text.Clean printed) ∧
      ∃ signs, read? (Stroke.encodeAll strokes) = some signs ∧
        ∀ row < 6, ∀ column < 80, ∃ w ∈ written Settled.nothing signs, w.Covers row column := by
  intro listed s layout strokes
  obtain ⟨htexts, hprinted⟩ :=
    a_frame_covers_the_screen s "12:00:00" 80 6 0 (by decide) (by decide)
  have hclean := htexts (by decide +kernel)
  obtain ⟨signs, hread, _, hcovers, _⟩ := hprinted hclean
  exact ⟨by decide, by decide, by decide, hclean, signs, hread, hcovers⟩

end ProcessMonitor.Screen
