-- The text of a frame. Besides the texts of the session it is made of fixed words and
-- of numbers, so a frame writes no control character that the session does not have.
import ProcessMonitor.Proofs.FrameParts

namespace ProcessMonitor

/-! ## The texts of a session -/

/-- The texts of the process that a row shows. -/
def ProcessSample.texts (p : ProcessSample) : List String :=
  [p.owner, p.command, String.singleton p.state]

def Mode.texts : Mode → List String
  | .filterEntry buffer => [buffer]
  | .confirmKill _ command => [command]
  | _ => []

/-- The processes that the screen shows: the selected one and those in the window. -/
def Session.processesShown (s : Session) : List ProcessSample :=
  s.table.selected?.toList ++ s.table.window.map Prod.fst

/-- The texts of the session that the screen shows. Users and processes choose them, and
the rest of a frame is the program's own. -/
def Session.texts (s : Session) : List String :=
  s.hostname :: s.table.filter ::
    (s.status.toList ++ s.mode.texts ++ s.processesShown.flatMap ProcessSample.texts)

namespace Screen

open Text (clean_append keepsTo_append keepsTo_fit keepsTo_truncate)

/-- The stroke writes no text with other control characters than the allowed ones. -/
def Stroke.KeepsTo (allowed : Char → Prop) : Stroke → Prop
  | .print text => Text.KeepsTo allowed text
  | _ => True

/-- No stroke writes a text with other control characters than the allowed ones. -/
def KeepTo (allowed : Char → Prop) (strokes : List Stroke) : Prop :=
  ∀ stroke ∈ strokes, stroke.KeepsTo allowed

/-- Strokes that may write no control characters write none. -/
theorem KeepTo.clean {strokes : List Stroke} (h : KeepTo (fun _ => False) strokes) :
    ∀ stroke ∈ strokes, stroke.Clean := by
  intro stroke hstroke
  have hkeeps := h stroke hstroke
  cases stroke with
  | print text => exact Text.keepsTo_false.mp hkeeps
  | moveTo | foreground | background | plain => trivial

/-- Strokes that print clean texts are clean, as moves and colours print none. -/
theorem clean_of_printed {strokes : List Stroke}
    (h : ∀ printed, .print printed ∈ strokes → Text.Clean printed) :
    ∀ stroke ∈ strokes, stroke.Clean := by
  intro stroke hstroke
  cases stroke with
  | print printed => exact h printed hstroke
  | moveTo | foreground | background | plain => trivial

variable {allowed : Char → Prop}

theorem keepTo_nil : KeepTo allowed [] := fun _ h => absurd h List.not_mem_nil

@[simp] theorem keepTo_cons {stroke : Stroke} {rest : List Stroke} :
    KeepTo allowed (stroke :: rest) ↔ stroke.KeepsTo allowed ∧ KeepTo allowed rest :=
  List.forall_mem_cons

@[simp] theorem keepTo_append {first second : List Stroke} :
    KeepTo allowed (first ++ second) ↔ KeepTo allowed first ∧ KeepTo allowed second :=
  List.forall_mem_append

theorem keepTo_flatMap {α : Type} {parts : List α} {draw : α → List Stroke}
    (h : ∀ part ∈ parts, KeepTo allowed (draw part)) : KeepTo allowed (parts.flatMap draw) := by
  intro stroke hstroke
  obtain ⟨part, hpart, hmem⟩ := List.mem_flatMap.mp hstroke
  exact h part hpart stroke hmem

/-! ## Bars -/

theorem keepTo_header (row width : Nat) {hostname clock : String}
    (hhost : Text.KeepsTo allowed hostname) (hclock : Text.KeepsTo allowed clock) :
    KeepTo allowed (header row width hostname clock) := by
  have hblank : Text.Clean " " := by decide
  have hname : Text.Clean programName := by decide
  have hversion : Text.Clean version := by decide
  have hgap : Text.Clean "  " := by decide
  unfold header
  simp [Stroke.KeepsTo, KeepTo, keepsTo_fit, hblank, hname, hversion, hgap, hhost, hclock]

section Session

variable (row width : Nat) (s : Session)

theorem clean_tasksText : Text.Clean (tasksText s) := by
  unfold tasksText
  split <;> simp +decide

theorem clean_swapText (m : Metrics) : Text.Clean (swapText m) := by
  unfold swapText
  split <;> simp +decide

theorem clean_intervalText : Text.Clean s.intervalText := by
  unfold Session.intervalText
  split <;> simp +decide

theorem clean_loadText (load : Load) : Text.Clean (loadText load) := by
  have hname : Text.Clean "Load: " := by decide
  have hblank : Text.Clean " " := by decide
  unfold loadText
  simp [hname, hblank]

theorem clean_memoryText (m : Metrics) : Text.Clean (memoryText m) := by
  have hname : Text.Clean "Mem: " := by decide
  have hof : Text.Clean " / " := by decide
  have hopen : Text.Clean " (" := by decide
  have hbuffers : Text.Clean "%) buf " := by decide
  have hcache : Text.Clean " cache " := by decide
  unfold memoryText
  simp [hname, hof, hopen, hbuffers, hcache]

theorem clean_statsText : Text.Clean (statsText s) := by
  have hcpu : Text.Clean "CPU: " := by decide
  have hpercent : Text.Clean "%" := by decide
  have hinterval : Text.Clean "Refresh: " := by decide
  refine clean_append.mpr ⟨by decide, Text.clean_intercalate (by decide) ?_⟩
  simp [clean_tasksText, clean_loadText, hcpu, hpercent, clean_memoryText, clean_swapText,
    hinterval, clean_intervalText]

theorem keepTo_stats : KeepTo allowed (stats row width s) := by
  simp [stats, Stroke.KeepsTo, KeepTo, keepsTo_fit, clean_statsText]

variable {s} (h : ∀ text ∈ s.texts, Text.KeepsTo allowed text)

include h

theorem keepsTo_hostname : Text.KeepsTo allowed s.hostname := h _ (by simp [Session.texts])

theorem keepsTo_filter : Text.KeepsTo allowed s.table.filter := h _ (by simp [Session.texts])

theorem keepsTo_mode : ∀ text ∈ s.mode.texts, Text.KeepsTo allowed text :=
  fun text htext => h text (by simp [Session.texts, htext])

theorem keepsTo_processesShown {p : ProcessSample} (hp : p ∈ s.processesShown) :
    ∀ text ∈ p.texts, Text.KeepsTo allowed text := by
  intro text htext
  have hmem : text ∈ s.processesShown.flatMap ProcessSample.texts :=
    List.mem_flatMap.mpr ⟨p, hp, htext⟩
  exact h text (by simp only [Session.texts, List.mem_cons, List.mem_append, hmem, or_true])

theorem keepsTo_statusText : Text.KeepsTo allowed (statusText s).1 := by
  unfold statusText
  split
  · rename_i message hmessage
    have hkeeps : Text.KeepsTo allowed message := h message (by simp [Session.texts, hmessage])
    simp +decide [hkeeps]
  · split
    · simp +decide
    · split
      · rename_i p hp
        have hshown : p ∈ s.processesShown :=
          List.mem_append_left _ (Option.mem_toList.mpr hp)
        have hcommand := keepsTo_processesShown h hshown p.command (by simp [ProcessSample.texts])
        simp +decide [hcommand]
      · simp +decide

theorem keepTo_status : KeepTo allowed (status row width s) := by
  simp [status, Stroke.KeepsTo, KeepTo, keepsTo_fit, keepsTo_truncate, keepsTo_statusText h]

theorem keepsTo_footerText : Text.KeepsTo allowed (footerText s).1 := by
  unfold footerText
  split
  · simp +decide
  · simp +decide
  · split
    · simp +decide
    · simp +decide [keepsTo_filter h]

theorem keepTo_footer : KeepTo allowed (footer row width s) := by
  simp [footer, Stroke.KeepsTo, KeepTo, keepsTo_fit, keepsTo_truncate, keepsTo_footerText h]

end Session

/-! ## Pieces -/

theorem keepTo_putPieces (room : Nat) {pieces : List (Colour × String)}
    (h : ∀ piece ∈ pieces, Text.KeepsTo allowed piece.2) :
    KeepTo allowed (putPieces room pieces).1 := by
  induction pieces generalizing room with
  | nil => exact keepTo_nil
  | cons piece rest ih =>
    have hrest := ih (Text.put room piece.2).2 fun other hother =>
      h other (List.mem_cons_of_mem piece hother)
    exact keepTo_cons.mpr ⟨trivial, keepTo_cons.mpr
      ⟨Text.keepsTo_put (h piece List.mem_cons_self) room, hrest⟩⟩

/-- Pieces, and what is written behind them. -/
theorem keepTo_behind (room : Nat) {pieces : List (Colour × String)} {behind : List Stroke}
    (h : ∀ piece ∈ pieces, Text.KeepsTo allowed piece.2) (hbehind : KeepTo allowed behind) :
    KeepTo allowed ((putPieces room pieces).1 ++ behind) :=
  keepTo_append.mpr ⟨keepTo_putPieces room h, hbehind⟩

theorem keepTo_spaces_plain (room : Nat) : KeepTo allowed [.print (Text.spaces room), .plain] := by
  simp [KeepTo, Stroke.KeepsTo]

/-! ## Graphs -/

theorem clean_gauge (percent : Double) (width : Nat) : Text.Clean (gauge percent width) := by
  have hbar (n : Nat) : Text.Clean (Text.copies n '|') := Text.clean_copies (by decide) n
  unfold gauge
  split <;> simp +decide [hbar]

theorem keepTo_panelTitle (x y width : Nat) {label : String} (percent : Double) {detail : String}
    (hlabel : Text.Clean label) (hdetail : Text.Clean detail) :
    KeepTo allowed (panelTitle x y width label percent detail) := by
  have hpieces (bar : Nat) : ∀ piece ∈ [(Colour.cyan, " " ++ Text.padRight 4 label),
      (usageColour percent, gauge percent bar), (Colour.white, " " ++ detail ++ " ")],
      Text.KeepsTo allowed piece.2 := by
    simp +decide [hlabel, hdetail, clean_gauge]
  exact keepTo_cons.mpr ⟨trivial,
    keepTo_behind width (hpieces _) (keepTo_spaces_plain _)⟩

theorem not_isControl_block (eighths : Nat) : ¬ Text.IsControl (block eighths) := by
  have hblocks : Text.Clean (String.ofList blocks) := by decide +kernel
  unfold block
  rw [List.getD_eq_getElem?_getD]
  cases hc : blocks[eighths]? with
  | none => decide
  | some c => exact Text.clean_ofList.mp hblocks c (List.mem_of_getElem? hc)

theorem keepTo_historyLine (x y : Nat) {cells : List (Colour × Char)}
    (h : ∀ cell ∈ cells, ¬ Text.IsControl cell.2) : KeepTo allowed (historyLine x y cells) := by
  have hruns : ∀ run ∈ colourRuns cells, ∀ c ∈ run.2, ¬ Text.IsControl c := by
    intro run hrun c hc
    have hmem : c ∈ (colourRuns cells).flatMap (·.2) := List.mem_flatMap.mpr ⟨run, hrun, hc⟩
    rw [flatMap_colourRuns] at hmem
    obtain ⟨cell, hcell, rfl⟩ := List.mem_map.mp hmem
    exact h cell hcell
  refine keepTo_cons.mpr ⟨trivial, keepTo_append.mpr
    ⟨keepTo_flatMap fun run hrun => ?_, by simp [KeepTo, Stroke.KeepsTo]⟩⟩
  exact keepTo_cons.mpr ⟨trivial, keepTo_cons.mpr
    ⟨(Text.clean_ofList.mpr (hruns run hrun)).keepsTo, keepTo_nil⟩⟩

theorem keepTo_history (x y width : Nat) (samples : List Double) :
    KeepTo allowed (history x y width samples) := by
  unfold history
  split
  · exact keepTo_nil
  · refine keepTo_flatMap fun line _ => keepTo_historyLine x (y + line) fun c hc => ?_
    obtain ⟨level, _, hlevel⟩ := List.mem_map.mp (List.of_mem_zip hc).2
    rw [← hlevel]
    exact not_isControl_block _

theorem keepTo_panel (x y width : Nat) {label : String} (percent : Double) {detail : String}
    (ring : Ring) (hlabel : Text.Clean label) (hdetail : Text.Clean detail) :
    KeepTo allowed (panel x y width label percent detail ring) :=
  keepTo_append.mpr
    ⟨keepTo_panelTitle x y width percent hlabel hdetail, keepTo_history x (y + 1) width _⟩

theorem keepTo_graphs (area : GraphArea) (width : Nat) (s : Session) :
    KeepTo allowed (graphs area width s) := by
  have hcpu : Text.Clean (Text.padLeft 5 (s.metrics.cpu.fixed 1) ++ "%") := by simp +decide
  have hmemory : Text.Clean (memoryDetail s.metrics) := by simp +decide [memoryDetail]
  exact keepTo_append.mpr ⟨keepTo_panel _ _ _ _ _ (by decide) hcpu,
    keepTo_panel _ _ _ _ _ (by decide) hmemory⟩

theorem clean_sparkline (samples : List Double) (length : Nat) :
    Text.Clean (sparkline samples length) := by
  refine clean_append.mpr ⟨Text.clean_spaces _, Text.clean_ofList.mpr fun c hc => ?_⟩
  obtain ⟨value, _, rfl⟩ := List.mem_map.mp hc
  exact not_isControl_block _

theorem clean_coreCell (core : Nat) (ring : Ring) (percent : Double) :
    Text.Clean (coreCell core ring percent).2 := by
  simp +decide [coreCell, Text.clean_fit, clean_sparkline]

theorem keepTo_coreCells (area : CoreArea) (width : Nat) (rings : List Ring)
    (percents : List Double) : KeepTo allowed (coreCells area width rings percents) := by
  refine keepTo_flatMap fun line _ => keepTo_cons.mpr ⟨trivial,
    keepTo_behind width (fun piece hpiece => ?_) (by simp [KeepTo, Stroke.KeepsTo])⟩
  obtain ⟨⟨ring, core⟩, _, rfl⟩ := List.mem_map.mp hpiece
  exact (clean_coreCell core ring _).keepsTo

/-! ## The process list -/

theorem keepTo_columnHeadings (row width : Nat) (table : Table) :
    KeepTo allowed (columnHeadings row width table) := by
  have hname : Text.Clean table.column.name := by cases table.column <;> decide
  have harrow : Text.Clean (if table.descending then "↓" else "↑") := by split <;> decide
  have hheadings : Text.Clean headings := by decide +kernel
  have hopen : Text.Clean "  [" := by decide
  have hblank : Text.Clean " " := by decide
  have hclose : Text.Clean "]" := by decide
  unfold columnHeadings
  simp [KeepTo, Stroke.KeepsTo, keepsTo_fit, hname, harrow, hheadings, hopen, hblank, hclose]

section Process

variable {p : ProcessSample} (h : ∀ text ∈ p.texts, Text.KeepsTo allowed text)

include h

theorem keepsTo_rowStart : Text.KeepsTo allowed (rowStart p) := by
  have hblank : Text.Clean " " := by decide
  have howner : Text.KeepsTo allowed p.owner := h _ (by simp [ProcessSample.texts])
  have hstate : Text.KeepsTo allowed (String.singleton p.state) :=
    h _ (by simp [ProcessSample.texts])
  unfold rowStart
  simp only [keepsTo_append, hblank.keepsTo, Text.keepsTo_padLeft, Int.toString_eq_repr,
    (Text.clean_repr_int _).keepsTo, keepsTo_fit howner, (Text.clean_formatKb _).keepsTo, hstate,
    and_self]

theorem keepTo_processRow (y width : Nat) (selected : Bool) :
    KeepTo allowed (processRow y width selected p) := by
  have hcommand : Text.KeepsTo allowed p.command := h _ (by simp [ProcessSample.texts])
  have hpieces (ink : Colour) : ∀ piece ∈ [(ink, rowStart p),
      (usageColour p.cpu, percentColumn p.cpu), (usageColour p.memory, percentColumn p.memory),
      (ink, Text.truncate p.command (width - fixedColumnsWidth))],
      Text.KeepsTo allowed piece.2 := by
    simp +decide [keepsTo_rowStart h, percentColumn, keepsTo_truncate, hcommand]
  exact keepTo_cons.mpr ⟨trivial, keepTo_cons.mpr ⟨trivial,
    keepTo_behind width (hpieces _) (keepTo_spaces_plain _)⟩⟩

end Process

theorem keepTo_processRows (layout : Layout) {table : Table}
    (h : ∀ row ∈ table.window, ∀ text ∈ row.1.texts, Text.KeepsTo allowed text) :
    KeepTo allowed (processRows layout table) := by
  refine keepTo_append.mpr ⟨keepTo_flatMap fun row hrow => ?_,
    keepTo_flatMap fun line _ => by simp [blankRow, KeepTo, Stroke.KeepsTo]⟩
  exact keepTo_processRow (h row.1 (List.mem_of_mem_take (List.fst_mem_of_mem_zipIdx hrow))) _ _ _

/-! ## Boxes -/

theorem keepTo_line (box : Box) (row : Nat) {text : String} (colour : Colour)
    (h : Text.KeepsTo allowed text) : KeepTo allowed (box.line row text colour) := by
  unfold Box.line
  split
  · exact keepTo_nil
  · simp +decide [KeepTo, Stroke.KeepsTo, keepsTo_fit, h]

theorem keepTo_boxFrame (box : Box) {title : String} (h : Text.Clean title) :
    KeepTo allowed (box.frame title) := by
  have hrule (n : Nat) : Text.Clean (Text.copies n '─') := Text.clean_copies (by decide) n
  have htop : KeepTo allowed (box.topBorder title) := by
    simp +decide [Box.topBorder, KeepTo, Stroke.KeepsTo, hrule, Text.keepsTo_clip h.keepsTo]
  have hbottom : KeepTo allowed box.bottomBorder := by
    simp +decide [Box.bottomBorder, KeepTo, Stroke.KeepsTo, hrule]
  have hblank : Text.Clean "" := by decide
  exact keepTo_append.mpr ⟨keepTo_append.mpr ⟨htop,
    keepTo_flatMap fun row _ => keepTo_line box row .white hblank.keepsTo⟩, hbottom⟩

theorem keepTo_modal (screenWidth screenHeight width : Nat) (ground : Colour) {title : String}
    {lines : List (String × Colour)} (htitle : Text.Clean title)
    (hlines : ∀ line ∈ lines, Text.KeepsTo allowed line.1) :
    KeepTo allowed (modal screenWidth screenHeight width ground title lines) := by
  unfold modal
  split
  · exact keepTo_nil
  · refine keepTo_append.mpr ⟨keepTo_boxFrame _ htitle, keepTo_flatMap fun line hline => ?_⟩
    exact keepTo_line _ _ _ (hlines _ (List.fst_mem_of_mem_zipIdx hline))

theorem clean_helpLine {keys meaning : String} (hkeys : Text.Clean keys)
    (hmeaning : Text.Clean meaning) : Text.Clean (helpLine keys meaning).1 := by
  unfold helpLine
  split <;> simp +decide [hkeys, hmeaning]

theorem clean_helpLines : ∀ line ∈ helpLines, Text.Clean line.1 ∧ Text.Clean line.2 := by
  decide +kernel

theorem keepTo_overlay (width height : Nat) {mode : Mode}
    (h : ∀ text ∈ mode.texts, Text.KeepsTo allowed text) :
    KeepTo allowed (overlay width height mode) := by
  cases mode with
  | normal => exact keepTo_nil
  | filterEntry buffer =>
    have hbuffer := h buffer List.mem_cons_self
    exact keepTo_modal _ _ _ _ (by decide) (by simp +decide [Text.keepsTo_clipTail hbuffer])
  | confirmKill pid command =>
    have hcommand := h command List.mem_cons_self
    exact keepTo_modal _ _ _ _ (by decide) (by simp +decide [keepsTo_truncate hcommand])
  | help =>
    have hlines : ∀ line ∈ helpLines.map fun line => helpLine line.1 line.2,
        Text.Clean line.1 := by
      intro line hline
      obtain ⟨⟨keys, meaning⟩, hkeys, rfl⟩ := List.mem_map.mp hline
      exact clean_helpLine (clean_helpLines _ hkeys).1 (clean_helpLines _ hkeys).2
    have hfirst : Text.Clean "" := by decide
    refine keepTo_modal _ _ _ _ (by decide) (List.forall_mem_cons.mpr ⟨hfirst.keepsTo, ?_⟩)
    refine List.forall_mem_append.mpr ⟨fun line hline => (hlines line hline).keepsTo, ?_⟩
    simp +decide

/-! ## The frame -/

theorem keepTo_whenPlaced {α : Type} {place : Option α} {draw : α → List Stroke}
    (h : ∀ a, KeepTo allowed (draw a)) : KeepTo allowed (whenPlaced place draw) := by
  cases place with
  | none => exact keepTo_nil
  | some a => exact h a

/-- A frame writes no control characters but those that the texts of the session have. -/
theorem keepTo_frame {s : Session} (h : ∀ text ∈ s.texts, Text.KeepsTo allowed text)
    (layout : Layout) {clock : String} (hclock : Text.KeepsTo allowed clock) :
    KeepTo allowed (frame s layout clock) := by
  have hwindow : ∀ row ∈ s.table.window, ∀ text ∈ row.1.texts, Text.KeepsTo allowed text :=
    fun row hrow => keepsTo_processesShown h (List.mem_append_right _ (List.mem_map_of_mem hrow))
  have hend : KeepTo allowed [.plain, .moveTo 0 0] := by simp [KeepTo, Stroke.KeepsTo]
  unfold frame
  simp only [keepTo_append, and_assoc]
  exact ⟨keepTo_whenPlaced fun row => keepTo_header row _ (keepsTo_hostname h) hclock,
    keepTo_whenPlaced fun row => keepTo_stats row _ s,
    keepTo_whenPlaced fun area => keepTo_graphs area _ s,
    keepTo_whenPlaced fun area => keepTo_coreCells area _ _ _,
    keepTo_whenPlaced fun row => keepTo_columnHeadings row _ _,
    keepTo_processRows layout hwindow,
    keepTo_whenPlaced fun row => keepTo_status row _ h,
    keepTo_whenPlaced fun row => keepTo_footer row _ h,
    keepTo_overlay _ _ (keepsTo_mode h), hend⟩

/-- A frame of clean texts writes clean texts. -/
theorem clean_frame {s : Session} (h : ∀ text ∈ s.texts, Text.Clean text) (layout : Layout)
    {clock : String} (hclock : Text.Clean clock) :
    ∀ stroke ∈ frame s layout clock, stroke.Clean :=
  (keepTo_frame (fun text htext => Text.keepsTo_false.mpr (h text htext)) layout
    (Text.keepsTo_false.mpr hclock)).clean

end Screen

end ProcessMonitor
