-- The laws of the columns of the process list. A row and the headings are cells side by
-- side, and cells of the same widths stand in the same columns. So each field stands under
-- its heading as long as its text is no wider than its cell, and the command gets what is
-- left behind all of them.
import ProcessMonitor.Proofs.FrameParts
import ProcessMonitor.Proofs.PieceCuts

namespace ProcessMonitor

namespace Text

/-! ## Columns of a part -/

/-- A part of the text stands in the columns from `first` on and before `last`. -/
def StandsIn (text part : String) (first last : Nat) : Prop :=
  ∃ before behind, text = before ++ part ++ behind ∧ displayWidth before = first ∧
    first + displayWidth part = last

section StandsIn

variable {text part : String} {first last : Nat}

/-- What is cut off behind the columns of a part leaves it there, and the part itself is cut
where the room ends. -/
theorem StandsIn.fit_clip (h : StandsIn text part first last) {room : Nat} (hroom : first ≤ room) :
    StandsIn (fit text room) (clip part (room - first)) first
      (first + displayWidth (clip part (room - first))) := by
  obtain ⟨before, behind, rfl, hfirst, _⟩ := h
  -- What is kept of the part is all of it, or else nothing behind it is kept.
  have hclip : ∃ more, clip (part ++ behind) (room - first) = clip part (room - first) ++ more := by
    by_cases hpart : displayWidth part ≤ room - first
    · rw [clip_append_of_le hpart, clip_of_le hpart]
      exact ⟨_, rfl⟩
    · rw [clip_append_of_lt (Nat.lt_of_not_le hpart)]
      exact ⟨"", by simp⟩
  obtain ⟨more, hmore⟩ := hclip
  have hcut : clip (before ++ part ++ behind) room =
      before ++ clip part (room - first) ++ more := by
    have hbefore : displayWidth before ≤ room := by omega
    simp only [String.append_assoc]
    rw [clip_append_of_le hbefore, hfirst, hmore]
  refine ⟨before, more ++ spaces (room - displayWidth (clip (before ++ part ++ behind) room)), ?_,
    hfirst, rfl⟩
  rw [fit, hcut]
  simp only [String.append_assoc]

theorem StandsIn.fit (h : StandsIn text part first last) {room : Nat} (hroom : last ≤ room) :
    StandsIn (fit text room) part first last := by
  have hlast : first + displayWidth part = last := by
    obtain ⟨_, _, _, _, hlast⟩ := h
    exact hlast
  have hpart : clip part (room - first) = part := clip_of_le (by omega)
  have hfit := h.fit_clip (Nat.le_trans (Nat.le.intro hlast) hroom)
  rwa [hpart, hlast] at hfit

theorem StandsIn.append (h : StandsIn text part first last) (more : String) :
    StandsIn (text ++ more) part first last := by
  obtain ⟨before, behind, rfl, hwidths⟩ := h
  exact ⟨before, behind ++ more, by simp only [String.append_assoc], hwidths⟩

theorem StandsIn.prepend (h : StandsIn text part first last) (front : String) :
    StandsIn (front ++ text) part (displayWidth front + first) (displayWidth front + last) := by
  obtain ⟨before, behind, rfl, hfirst, hlast⟩ := h
  refine ⟨front ++ before, behind, by simp only [String.append_assoc], ?_, by omega⟩
  rw [displayWidth_append, hfirst]

end StandsIn

/-! ## Padded text -/

theorem padLeft_of_le {count : Nat} {text : String} (h : count ≤ text.length) :
    padLeft count text = text := by
  have hnone : count - text.length = 0 := Nat.sub_eq_zero_of_le h
  simp [padLeft, spaces, hnone]

/-- A text that is as wide as it is long takes the columns that it is padded to. -/
theorem displayWidth_padLeft {count : Nat} {text : String} (hlength : text.length ≤ count)
    (hwidth : displayWidth text = text.length) : displayWidth (padLeft count text) = count := by
  rw [padLeft, displayWidth_append, displayWidth_spaces, hwidth]
  omega

/-! ## Cells side by side -/

/-- The columns of cells of these widths side by side: the first one of each and the one
behind it. -/
def spans : Nat → List Nat → List (Nat × Nat)
  | _, [] => []
  | first, width :: rest => (first, first + width) :: spans (first + width) rest

theorem spans_add (offset first : Nat) (widths : List Nat) :
    spans (offset + first) widths =
      (spans first widths).map fun (start, stop) => (offset + start, offset + stop) := by
  induction widths generalizing first with
  | nil => rfl
  | cons width rest ih => rw [spans, Nat.add_assoc, ih, spans, List.map_cons]

theorem displayWidth_join (cells : List String) :
    displayWidth (String.join cells) = (cells.map displayWidth).foldr (· + ·) 0 := by
  induction cells with
  | nil => rfl
  | cons cell rest ih => rw [String.join_cons, displayWidth_append, ih]; rfl

/-- Each of the cells stands in its columns. -/
theorem standsIn_join {cells : List String} {part : String} {first last : Nat}
    (h : (part, first, last) ∈ cells.zip (spans 0 (cells.map displayWidth))) :
    StandsIn (String.join cells) part first last := by
  induction cells generalizing first last with
  | nil => simp at h
  | cons cell rest ih =>
    rw [String.join_cons]
    simp only [List.map_cons, spans, List.zip_cons_cons, List.mem_cons, Prod.mk.injEq,
      Nat.zero_add] at h
    rcases h with ⟨rfl, rfl, rfl⟩ | hrest
    · exact ⟨"", String.join rest, by simp, rfl, Nat.zero_add _⟩
    · rw [← Nat.add_zero (displayWidth cell), spans_add, List.zip_map_right] at hrest
      obtain ⟨⟨other, start, stop⟩, hmem, heq⟩ := List.mem_map.mp hrest
      obtain ⟨rfl, rfl, rfl⟩ : other = part ∧ _ = first ∧ _ = last := by simpa using heq
      exact (ih hmem).prepend cell

end Text

namespace Screen

open Text (displayWidth charWidth StandsIn spans)

/-! ## The fields of a row -/

/-- A field that ends where its heading ends: its heading, its text, its first column and the
count of its columns. -/
structure RowField where
  heading : String
  value : ProcessSample → String
  first : Nat
  width : Nat

namespace RowField

/-- A text at the right end of the columns of a field. -/
def cell (field : RowField) (text : String) : String := Text.padLeft field.width text

def pid : RowField := ⟨"PID", fun p => toString p.pid, 1, 7⟩
def priority : RowField := ⟨"PRI", fun p => toString p.priority, 19, 4⟩
def nice : RowField := ⟨"NI", fun p => toString p.nice, 24, 4⟩
def virtualKb : RowField := ⟨"VIRT", fun p => formatKb p.virtualKb, 29, 7⟩
def residentKb : RowField := ⟨"RES", fun p => formatKb p.residentKb, 37, 7⟩
def state : RowField := ⟨"S", fun p => String.singleton p.state, 45, 1⟩
def threads : RowField := ⟨"THR", fun p => toString p.threads, 47, 4⟩
def cpu : RowField := ⟨"CPU%", fun p => p.cpu.fixed 1, 52, 5⟩
def memory : RowField := ⟨"MEM%", fun p => p.memory.fixed 1, 59, 5⟩

/-- The fields from left to right, all but the owner and the command. -/
def all : List RowField :=
  [pid, priority, nice, virtualKb, residentKb, state, threads, cpu, memory]

end RowField

/-- No text is longer than its field has columns. Only the state can be a glyph that is not
as wide as it is long. -/
structure FieldsFit (p : ProcessSample) : Prop where
  length : ∀ field ∈ RowField.all, (field.value p).length ≤ field.width
  state : charWidth p.state = 1

/-- The cells in front of the command: the owner, and the text of every other field. -/
def cellsOf (owner : String) (text : RowField → String) : List String :=
  let cell field := RowField.cell field (text field)
  [" ", cell .pid, " ", owner, " ", cell .priority, " ", cell .nice, " ", cell .virtualKb, " ",
    cell .residentKb, " ", cell .state, " ", cell .threads, " ", cell .cpu, "  ", cell .memory,
    "  "]

theorem rowFront_eq_join (p : ProcessSample) :
    rowFront p =
      String.join (cellsOf (Text.fit p.owner ownerWidth) fun field => field.value p) := by
  have hstate : Text.padLeft 1 (String.singleton p.state) = String.singleton p.state :=
    Text.padLeft_of_le (by simp)
  unfold rowFront rowStart percentColumn cellsOf
  dsimp only [RowField.cell, RowField.pid, RowField.priority, RowField.nice, RowField.virtualKb,
    RowField.residentKb, RowField.state, RowField.threads, RowField.cpu, RowField.memory]
  simp only [hstate, String.join_cons, String.join_nil, String.append_empty, String.append_assoc]

theorem headings_eq_join :
    headings = String.join (cellsOf (Text.padRight ownerWidth "USER") RowField.heading) ++
      "COMMAND" := by
  have hstate : " S " = " " ++ (Text.padLeft 1 "S" ++ " ") := by decide +kernel
  have hcommand : "  COMMAND" = "  " ++ "COMMAND" := by decide +kernel
  unfold headings cellsOf
  rw [hstate, hcommand]
  simp only [String.join_cons, String.join_nil, String.append_assoc, String.append_empty]
  rfl

/-- The widths of the cells in front of the command. -/
def cellWidths : List Nat := [1, 7, 1, 9, 1, 4, 1, 4, 1, 7, 1, 7, 1, 1, 1, 4, 1, 5, 2, 5, 2]

section Cells

variable {owner : String} {text : RowField → String} (howner : displayWidth owner = ownerWidth)
  (htext : ∀ field ∈ RowField.all,
    displayWidth (field.cell (text field)) = field.width)

include howner htext

theorem map_displayWidth_cellsOf : (cellsOf owner text).map displayWidth = cellWidths := by
  have hblank : displayWidth " " = 1 := by decide
  have hblanks : displayWidth "  " = 2 := by decide
  simp only [RowField.all, List.forall_mem_cons] at htext
  obtain ⟨hpid, hpriority, hnice, hvirtual, hresident, hstate, hthreads, hcpu, hmemory, _⟩ := htext
  simp only [cellsOf, List.map_cons, List.map_nil, hblank, hblanks, howner, hpid, hpriority, hnice,
    hvirtual, hresident, hstate, hthreads, hcpu, hmemory]
  rfl

theorem displayWidth_cellsOf :
    displayWidth (String.join (cellsOf owner text)) = fixedColumnsWidth := by
  rw [Text.displayWidth_join, map_displayWidth_cellsOf howner htext]
  rfl

theorem standsIn_owner : StandsIn (String.join (cellsOf owner text)) owner 9 18 := by
  refine Text.standsIn_join ?_
  rw [map_displayWidth_cellsOf howner htext]
  simp [cellsOf, cellWidths, spans]

theorem standsIn_field {field : RowField} (hfield : field ∈ RowField.all) :
    StandsIn (String.join (cellsOf owner text)) (field.cell (text field)) field.first
      (field.first + field.width) := by
  refine Text.standsIn_join ?_
  rw [map_displayWidth_cellsOf howner htext]
  simp only [RowField.all, List.mem_cons, List.not_mem_nil, or_false] at hfield
  rcases hfield with rfl | rfl | rfl | rfl | rfl | rfl | rfl | rfl | rfl <;>
    simp [cellsOf, cellWidths, spans, RowField.pid, RowField.priority, RowField.nice,
      RowField.virtualKb, RowField.residentKb, RowField.state, RowField.threads, RowField.cpu,
      RowField.memory]

end Cells

/-! ## Cells of the headings and of a row -/

theorem displayWidth_heading : ∀ field ∈ RowField.all,
    displayWidth (field.cell field.heading) = field.width := by decide +kernel

/-- The text of every field but the state is of ASCII. -/
theorem FieldsFit.displayWidth_cell {p : ProcessSample} (h : FieldsFit p) :
    ∀ field ∈ RowField.all, displayWidth (field.cell (field.value p)) = field.width := by
  have hwide : ∀ field ∈ RowField.all,
      displayWidth (field.value p) = (field.value p).length := by
    have hstate : displayWidth (String.singleton p.state) = (String.singleton p.state).length := by
      simp [displayWidth, Text.width, h.state]
    simp only [RowField.all, List.forall_mem_cons]
    exact ⟨(Text.printable_repr_int _).displayWidth_eq, (Text.printable_repr_int _).displayWidth_eq,
      (Text.printable_repr_int _).displayWidth_eq, (Text.printable_formatKb _).displayWidth_eq,
      (Text.printable_formatKb _).displayWidth_eq, hstate,
      (Text.printable_repr_int _).displayWidth_eq, (Text.printable_fixed _ _).displayWidth_eq,
      (Text.printable_fixed _ _).displayWidth_eq, List.forall_mem_nil _⟩
  exact fun field hfield => Text.displayWidth_padLeft (h.length field hfield) (hwide field hfield)

theorem FieldsFit.displayWidth_rowFront {p : ProcessSample} (h : FieldsFit p) :
    displayWidth (rowFront p) = fixedColumnsWidth := by
  rw [rowFront_eq_join]
  exact displayWidth_cellsOf (Text.displayWidth_fit _ _) h.displayWidth_cell

/-- A row is what stands in front of the command, the command, and spaces. -/
theorem FieldsFit.printed_processRow {p : ProcessSample} (h : FieldsFit p) (y : Nat) {width : Nat}
    (selected : Bool) (hwidth : fixedColumnsWidth ≤ width) :
    let command := Text.truncate p.command (width - fixedColumnsWidth)
    printed (processRow y width selected p) = rowFront p ++ command ++
      Text.spaces (width - fixedColumnsWidth - displayWidth command) := by
  intro command
  have hfront := h.displayWidth_rowFront
  have hcommand : displayWidth command ≤ width - fixedColumnsWidth :=
    Text.displayWidth_truncate_le p.command _
  have hwhole : displayWidth (rowFront p ++ command) ≤ width := by
    rw [Text.displayWidth_append]
    omega
  rw [Screen.printed_processRow y selected (by omega), Text.fit, Text.clip_of_le hwhole,
    Text.displayWidth_append, hfront, Nat.sub_sub]

/-- A command that fits behind the fields is printed as it is. -/
theorem FieldsFit.print_command_mem {p : ProcessSample} (h : FieldsFit p) (y : Nat) {width : Nat}
    (selected : Bool) (hwidth : fixedColumnsWidth + displayWidth p.command ≤ width) :
    .print p.command ∈ processRow y width selected p := by
  have hwhole : Text.truncate p.command (width - fixedColumnsWidth) = p.command :=
    (Text.truncate_eq_self_iff p.command _).mpr (by omega)
  rw [← h.displayWidth_rowFront, ← wholeText_rowFront (rowColours selected).2 p] at hwidth
  have hmem := print_mem_putPieces ((rowColours selected).2, p.command) hwidth
  unfold processRow
  rw [hwhole]
  exact List.mem_cons_of_mem _ (List.mem_cons_of_mem _ (List.mem_append_left _ hmem))

theorem printed_columnHeadings (row width : Nat) (table : Table) :
    ∃ more, printed (columnHeadings row width table) = Text.fit (headings ++ more) width := by
  refine ⟨"  [" ++ table.column.name ++ " " ++ (if table.descending then "↓" else "↑") ++ "]", ?_⟩
  simp [columnHeadings, Stroke.text, String.append_assoc]

/-- The headings stand in the columns of the fields, and the one of the command behind them. -/
theorem standsIn_headings :
    StandsIn headings (Text.padRight 9 "USER") 9 18 ∧
      (∀ field ∈ RowField.all,
        StandsIn headings (field.cell field.heading) field.first (field.first + field.width)) ∧
      StandsIn headings "COMMAND" 66 73 := by
  have howner : displayWidth (Text.padRight 9 "USER") = 9 := by decide
  have hcommand : displayWidth "COMMAND" = 7 := by decide
  have hfront : displayWidth (String.join (cellsOf (Text.padRight 9 "USER") RowField.heading)) =
      66 := displayWidth_cellsOf howner displayWidth_heading
  rw [headings_eq_join]
  refine ⟨(standsIn_owner howner displayWidth_heading).append _, fun field hfield =>
    (standsIn_field howner displayWidth_heading hfield).append _, _, "", by simp [ownerWidth],
    hfront, by rw [hcommand]⟩

/-! ## The laws -/

/-- A row of the list, for a process whose fields fit their columns, on a screen with room for
them, and the headings above it. Both take the columns of the screen exactly. The owner is cut
or padded to the columns 9 to 17, every other field ends where its heading ends, and the command
begins in column 66, as its heading does. It is whole exactly when it fits behind that column.
If not, it is its longest beginning that leaves three columns, and three dots, as long as there
is room for more than the dots. Behind the command there are only spaces. -/
theorem a_row_stands_under_its_headings (y row : Nat) {width : Nat} (selected : Bool)
    (table : Table) {p : ProcessSample} (hfit : FieldsFit p) (hwidth : 66 ≤ width) :
    let line := printed (processRow y width selected p)
    let head := printed (columnHeadings row width table)
    let room := width - 66
    let command := Text.truncate p.command room
    IsLine 0 y width (processRow y width selected p) ∧
      IsLine 0 row width (columnHeadings row width table) ∧
      displayWidth line = width ∧ displayWidth head = width ∧
      StandsIn line (Text.fit p.owner 9) 9 18 ∧ StandsIn head (Text.padRight 9 "USER") 9 18 ∧
      (∀ field ∈ RowField.all,
        StandsIn line (Text.padLeft field.width (field.value p)) field.first
            (field.first + field.width) ∧
          StandsIn head (Text.padLeft field.width field.heading) field.first
            (field.first + field.width)) ∧
      (∃ front, displayWidth front = 66 ∧
        line = front ++ command ++ Text.spaces (room - displayWidth command)) ∧
      StandsIn head (Text.clip "COMMAND" room) 66 (66 + displayWidth (Text.clip "COMMAND" room)) ∧
      (command = p.command ↔ displayWidth p.command ≤ room) ∧
      (room < displayWidth p.command → 69 < width → ∃ kept, command = kept ++ "..." ∧
        Text.Longest (Text.FitsFront p.command.toList (width - 69)) kept.toList) := by
  intro line head room command
  have hline : line = rowFront p ++ command ++ Text.spaces (room - displayWidth command) :=
    hfit.printed_processRow y selected hwidth
  obtain ⟨more, hhead⟩ : ∃ more, head = Text.fit (headings ++ more) width :=
    printed_columnHeadings row width table
  have hcommand : displayWidth command ≤ room := Text.displayWidth_truncate_le p.command room
  have hends : ∀ field ∈ RowField.all, field.first + field.width ≤ 66 := by decide
  have howner : displayWidth (Text.fit p.owner 9) = 9 := Text.displayWidth_fit _ _
  have hfront : displayWidth (rowFront p) = 66 := hfit.displayWidth_rowFront
  refine ⟨isLine_processRow y width selected p, isLine_columnHeadings row width table, ?_, ?_, ?_,
    ?_, fun field hfield => ⟨?_, ?_⟩, ⟨rowFront p, hfront, hline⟩, ?_,
    Text.truncate_eq_self_iff p.command room, fun hlong hroom => ?_⟩
  · rw [hline]
    simp only [Text.displayWidth_append, Text.displayWidth_spaces, hfront]
    omega
  · rw [hhead, Text.displayWidth_fit]
  · rw [hline, rowFront_eq_join, String.append_assoc]
    exact (standsIn_owner howner hfit.displayWidth_cell).append _
  · rw [hhead]
    exact (standsIn_headings.1.append more).fit (by omega)
  · rw [hline, rowFront_eq_join, String.append_assoc]
    exact (standsIn_field howner hfit.displayWidth_cell hfield).append _
  · rw [hhead]
    exact ((standsIn_headings.2.1 field hfield).append more).fit
      (Nat.le_trans (hends field hfield) hwidth)
  · rw [hhead]
    exact (standsIn_headings.2.2.append more).fit_clip hwidth
  · refine ⟨Text.clip p.command (room - 3), ?_, ?_⟩
    · exact (if_neg (Nat.not_le_of_lt hlong)).trans (if_pos (by omega))
    · rw [Text.clip, String.toList_ofList, Nat.sub_sub]
      exact Text.longest_clipChars p.command.toList (width - 69)

/-- A process whose owner and command are glyphs of two columns each. -/
def wideRowSample : ProcessSample :=
  ⟨4194304, 1, "編集文書部", Double.ofNat 100, zeroPercent, 204800, 1024, 'S',
    "日本語のファイル", 20, -20, 1024⟩

/-- The owner is cut inside its fifth glyph and the command inside its sixth. -/
theorem wide_glyphs_leave_the_columns_in_place :
    FieldsFit wideRowSample ∧ 66 ≤ 80 ∧
      let line := printed (processRow 5 80 true wideRowSample)
      StandsIn line "編集文書 " 9 18 ∧ StandsIn line " -20" 24 28 ∧
        ∃ front, displayWidth front = 66 ∧ line = front ++ "日本語のフ..." ++ " " := by
  have hfit : FieldsFit wideRowSample := ⟨by decide +kernel, by decide⟩
  have howner : Text.fit wideRowSample.owner 9 = "編集文書 " := by decide +kernel
  have hnice : RowField.nice.cell (RowField.nice.value wideRowSample) = " -20" := by decide +kernel
  have hcommand : Text.truncate wideRowSample.command (80 - 66) = "日本語のフ..." := by
    decide +kernel
  have hblank : Text.spaces (80 - 66 - displayWidth "日本語のフ...") = " " := by decide +kernel
  obtain ⟨_, _, _, _, hcut, _, hfields, hbehind, _⟩ := a_row_stands_under_its_headings 5 4 true
    (Table.empty .cpu true "") hfit (by decide : 66 ≤ 80)
  have hplace := (hfields .nice (by simp [RowField.all])).1
  rw [howner] at hcut
  rw [hcommand, hblank] at hbehind
  exact ⟨hfit, by decide, hcut, hnice ▸ hplace, hbehind⟩

end Screen

end ProcessMonitor
