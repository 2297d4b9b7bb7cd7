-- Which control characters a frame writes. Each move of the cursor and each choice of a
-- colour begins with an escape. Control characters in a text count as no column, and what
-- a cut keeps of the text keeps them. So a frame does to the terminal what the commands of
-- processes make it do, and no more than its own strokes when all texts are clean.
import ProcessMonitor.Proofs.FrameCover
import ProcessMonitor.Proofs.RowColumns

namespace ProcessMonitor.Screen

namespace Stroke

/-- A move or a choice of colours. -/
def isSequence : Stroke → Bool
  | .print _ => false
  | _ => true

/-- The control characters of a stroke: the escape that begins a sequence, or those in the
text. -/
def controls : Stroke → List Char
  | .print text => text.toList.filter Text.IsControl
  | _ => ['\x1b']

/-- A sequence has no control character behind the escape that begins it. -/
theorem filter_sequence {text : String} (h : Text.Clean text) :
    (sequenceStart ++ text).toList.filter Text.IsControl = ['\x1b'] := by
  have hrest : text.toList.filter Text.IsControl = [] := by simpa [Text.Clean] using h
  have hstart : sequenceStart.toList.filter Text.IsControl = ['\x1b'] := by decide
  rw [String.toList_append, List.filter_append, hstart, hrest, List.append_nil]

theorem clean_coordinate (n : Nat) : Text.Clean (coordinate n) := Text.clean_repr_nat _

theorem filter_encode (stroke : Stroke) :
    stroke.encode.toList.filter Text.IsControl = stroke.controls := by
  have hsemicolon : Text.Clean ";" := by decide
  have hmove : Text.Clean "H" := by decide
  cases stroke with
  | moveTo column row =>
    rw [encode, String.append_assoc, String.append_assoc, String.append_assoc]
    exact filter_sequence (by simp [clean_coordinate, hsemicolon, hmove])
  | foreground colour => cases colour <;> decide
  | background colour => cases colour <;> decide
  | plain => decide
  | print text => rfl

/-- The control characters of strokes, in order. -/
theorem filter_encodeAll (strokes : List Stroke) :
    (encodeAll strokes).toList.filter Text.IsControl = strokes.flatMap controls := by
  rw [encodeAll, String.toList_join, List.flatMap_map, List.filter_flatMap]
  exact congrArg (strokes.flatMap ·) (funext filter_encode)

/-- Strokes of clean texts have the escapes of their sequences and no more. -/
theorem flatMap_controls_of_clean {strokes : List Stroke} (h : ∀ stroke ∈ strokes, stroke.Clean) :
    strokes.flatMap controls = (strokes.filter isSequence).map fun _ => '\x1b' := by
  induction strokes with
  | nil => rfl
  | cons stroke rest ih =>
    obtain ⟨hstroke, hrest⟩ := List.forall_mem_cons.mp h
    rw [List.flatMap_cons, ih hrest]
    cases stroke with
    | print text =>
      have hnone : text.toList.filter Text.IsControl = [] := by
        simpa [Clean, Text.Clean] using hstroke
      rw [controls, hnone, List.filter_cons_of_neg (by simp [isSequence]), List.nil_append]
    | moveTo | foreground | background | plain => rfl

end Stroke

/-- Each glyph of a frame stands on the screen. -/
theorem within_frame (s : Session) (clock : String) {width height : Nat} (count : Nat)
    (hwidth : width < 65536) (hheight : height < 65536) :
    ∀ w ∈ written Settled.nothing (signsOf (frame s (Layout.compute width height count) clock)),
      w.Within 0 0 width height := by
  have hsettled : Settled.Coloured ⟨none, some none, some none⟩ := ⟨rfl, rfl⟩
  rw [written_nothing_frame s width height count clock (Nat.le_of_lt hwidth)
    (Nat.le_of_lt hheight) hsettled]
  exact (block_frame s (Layout.stacked_compute width height count) clock (Nat.le_of_lt hwidth)
    (Nat.le_of_lt hheight)).inside _ hsettled

/-! ## The commands of a frame -/

/-- A command in the window is printed as it is when its row fits. -/
theorem print_command_mem_frame (s : Session) (layout : Layout) (clock : String)
    {row : Row} (hrow : row ∈ s.table.window.take layout.tableRows) (hfields : FieldsFit row.1)
    (hwidth : fixedColumnsWidth + Text.displayWidth row.1.command ≤ layout.width) :
    .print row.1.command ∈ frame s layout clock := by
  obtain ⟨line, hline⟩ := List.mem_iff_getElem?.mp hrow
  have hplace : (row, line) ∈ (s.table.window.take layout.tableRows).zipIdx :=
    List.mem_zipIdx_iff_getElem?.mpr hline
  apply (processRows_infix_frame s layout clock).subset
  apply List.mem_append_left
  exact List.mem_flatMap.mpr ⟨_, hplace, hfields.print_command_mem _ _ hwidth⟩

/-! ## The laws -/

/-- A frame of any session. Its control characters are the escapes of its moves and
colours and those of the texts that it prints. A text that it prints has no control
character that is not in a text of the session that the screen shows, and the command of
a process in the window is printed with all that it has when its row fits. If none of
those texts has any, then the terminal reads the moves, colours and glyphs of the frame,
and each glyph stands on the screen. -/
theorem a_frame_passes_control_characters_on (s : Session) (clock : String)
    (width height count : Nat) :
    let layout := Layout.compute width height count
    let shown := { s with table := s.table.setRows layout.tableRows }
    let strokes := frame shown layout clock
    let texts := clock :: shown.texts
    (Stroke.encodeAll strokes).toList.filter Text.IsControl = strokes.flatMap Stroke.controls ∧
      (∀ printed, .print printed ∈ strokes → ∀ c ∈ printed.toList, Text.IsControl c →
        ∃ text ∈ texts, c ∈ text.toList) ∧
      (∀ row ∈ shown.table.window.take layout.tableRows, FieldsFit row.1 →
        66 + Text.displayWidth row.1.command ≤ width → .print row.1.command ∈ strokes) ∧
      ((∀ text ∈ texts, Text.Clean text) →
        (Stroke.encodeAll strokes).toList.filter Text.IsControl =
            (strokes.filter Stroke.isSequence).map (fun _ => '\x1b') ∧
          read? (Stroke.encodeAll strokes) = some (signsOf strokes) ∧
          (width < 65536 → height < 65536 →
            ∀ w ∈ written Settled.nothing (signsOf strokes), w.Within 0 0 width height)) := by
  intro layout shown strokes texts
  have hcontrols := Stroke.filter_encodeAll strokes
  have hkeeps {allowed : Char → Prop} (h : ∀ text ∈ texts, Text.KeepsTo allowed text) :
      KeepTo allowed strokes :=
    keepTo_frame (fun text htext => h text (List.mem_cons_of_mem clock htext)) layout
      (h clock List.mem_cons_self)
  refine ⟨hcontrols, fun printed hprinted => ?_, fun row hrow hfields hwidth => ?_,
    fun hclean => ?_⟩
  · exact hkeeps (fun text htext c hc _ => ⟨text, htext, hc⟩) _ hprinted
  · exact print_command_mem_frame shown layout clock hrow hfields hwidth
  · have hstrokes : ∀ stroke ∈ strokes, stroke.Clean :=
      (hkeeps fun text htext => Text.keepsTo_false.mpr (hclean text htext)).clean
    exact ⟨hcontrols.trans (Stroke.flatMap_controls_of_clean hstrokes), read?_encodeAll hstrokes,
      within_frame shown clock count⟩

/-- A process whose command clears the screen when a terminal gets it raw. -/
def clearingReading : Reading :=
  { cpu := none
    cores := []
    memory := Memory.none
    load := Load.none
    processes := [⟨7, 1, "me", "p", "a\x1b[2Jb", 'S', 0, 0, 0, 0, 0, 0⟩] }

theorem a_command_clears_the_screen :
    let s := (Session.default.refresh clearingReading).session
    let layout := Layout.compute 12 3 0
    let strokes := frame { s with table := s.table.setRows layout.tableRows } layout "12:00:00"
    (Stroke.encodeAll strokes).toList.filter Text.IsControl ≠
        (strokes.filter Stroke.isSequence).map (fun _ => '\x1b') ∧
      read? (Stroke.encodeAll strokes) = none := by
  decide +kernel

end ProcessMonitor.Screen
