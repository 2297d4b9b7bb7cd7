-- The laws of boxes in the middle of the screen. A box is drawn blank inside its border, and its
-- lines over that. What is left of it is a border that is whole, with one line of text in each row
-- between its sides, whatever the texts are and however small the screen is.
import ProcessMonitor.Proofs.FrameText
import ProcessMonitor.Proofs.Pictures

namespace ProcessMonitor.Screen

/-! ## Rows of a box -/

namespace Box

/-- A line between the sides of the box. -/
def linePieces (box : Box) (text : String) (colour : Colour) : List (Colour × String) :=
  [(.white, "│"), (colour, Text.fit text box.innerWidth), (.white, "│")]

/-- The upper border around what is kept of the title. -/
def topPieces (box : Box) (title : String) : List (Colour × String) :=
  let shown := Text.clip title box.innerWidth
  let left := (box.innerWidth - Text.displayWidth shown) / 2
  let right := box.innerWidth - left - Text.displayWidth shown
  [(.white, "┌" ++ Text.copies left '─'), (.yellow, shown), (.white, Text.copies right '─' ++ "┐")]

def bottomPieces (box : Box) : List (Colour × String) :=
  [(.white, "└" ++ Text.copies box.innerWidth '─' ++ "┘")]

/-- What is left in a row of the box, counted from its upper border. A row without a line is
blank. -/
def rowPieces (box : Box) (title : String) (lines : List (String × Colour)) (row : Nat) :
    List (Colour × String) :=
  if row = 0 then box.topPieces title
  else if row ≤ box.innerHeight then
    box.linePieces (lines.getD (row - 1) ("", .white)).1 (lines.getD (row - 1) ("", .white)).2
  else box.bottomPieces

variable (box : Box)

theorem rowPieces_line (title : String) (lines : List (String × Colour)) {row : Nat}
    (h : row < box.innerHeight) :
    box.rowPieces title lines (row + 1) =
      box.linePieces (lines.getD row ("", .white)).1 (lines.getD row ("", .white)).2 :=
  (if_neg (Nat.succ_ne_zero row)).trans (if_pos h)

theorem rowPieces_bottom (title : String) (lines : List (String × Colour)) {row : Nat}
    (h : box.innerHeight ≤ row) : box.rowPieces title lines (row + 1) = box.bottomPieces :=
  (if_neg (Nat.succ_ne_zero _)).trans (if_neg (Nat.not_le_of_lt (Nat.lt_succ_of_le h)))

theorem topBorder_eq_inColours (title : String) :
    box.topBorder title = .moveTo box.x box.y :: .background box.background ::
      (inColours (box.topPieces title) ++ [.plain]) := rfl

theorem bottomBorder_eq_inColours :
    box.bottomBorder = .moveTo box.x (box.y + box.height - 1) :: .background box.background ::
      (inColours box.bottomPieces ++ [.plain]) := rfl

theorem line_eq_inColours {row : Nat} (h : row < box.innerHeight) (text : String)
    (colour : Colour) :
    box.line row text colour = .moveTo box.x (box.y + 1 + row) :: .background box.background ::
      (inColours (box.linePieces text colour) ++ [.plain]) :=
  if_neg (Nat.not_le.mpr h)

end Box

/-! ## Columns of a row -/

theorem map_glyph_inkedOn (ground : Tint) (pieces : List (Colour × String)) :
    (inkedOn ground pieces).map Inked.glyph = pieces.flatMap fun piece => piece.2.toList := by
  simp [inkedOn, List.map_flatMap, Function.comp_def]

theorem length_rowCells (ground : Tint) (pieces : List (Colour × String)) :
    (rowCells ground pieces).length = Text.width (pieces.flatMap fun piece => piece.2.toList) := by
  rw [rowCells, laid, length_foldl_addGlyph, map_glyph_inkedOn, List.length_nil, Nat.zero_add]

namespace Box

section Columns

variable (box : Box) (h : 2 ≤ box.width) (ground : Tint)

include h

theorem length_linePieces (text : String) (colour : Colour) :
    (rowCells ground (box.linePieces text colour)).length = box.width := by
  have hside : Text.width "│".toList = 1 := displayWidth_side
  have hfit : Text.width (Text.fit text box.innerWidth).toList = box.innerWidth :=
    Text.displayWidth_fit text box.innerWidth
  rw [length_rowCells]
  simp only [linePieces, List.flatMap_cons, List.flatMap_nil, Text.width_append, hside, hfit,
    Text.width]
  unfold innerWidth
  omega

theorem length_topPieces (title : String) :
    (rowCells ground (box.topPieces title)).length = box.width := by
  obtain ⟨hleft, hright, _, _⟩ := displayWidth_corners
  have hshown := Text.displayWidth_clip_le title box.innerWidth
  have hrule (n : Nat) : Text.width (Text.copies n '─').toList = n :=
    Text.displayWidth_copies charWidth_rule n
  rw [length_rowCells]
  unfold Text.displayWidth at hleft hright hshown
  simp only [topPieces, List.flatMap_cons, List.flatMap_nil, String.toList_append,
    Text.width_append, Text.displayWidth, hleft, hright, hrule, Text.width]
  unfold innerWidth at hshown ⊢
  omega

theorem length_bottomPieces : (rowCells ground box.bottomPieces).length = box.width := by
  obtain ⟨_, _, hleft, hright⟩ := displayWidth_corners
  have hrule : Text.width (Text.copies box.innerWidth '─').toList = box.innerWidth :=
    Text.displayWidth_copies charWidth_rule _
  rw [length_rowCells]
  unfold Text.displayWidth at hleft hright
  simp only [bottomPieces, List.flatMap_cons, List.flatMap_nil, String.toList_append,
    Text.width_append, hleft, hright, hrule, Text.width]
  unfold innerWidth
  omega

theorem length_rowPieces (title : String) (lines : List (String × Colour)) (row : Nat) :
    (rowCells ground (box.rowPieces title lines row)).length = box.width := by
  unfold rowPieces
  split
  · exact length_topPieces box h ground title
  · split
    · exact length_linePieces box h ground _ _
    · exact length_bottomPieces box h ground

end Columns

end Box

/-! ## What is left of a box -/

/-- Texts that begin with a glyph of its own need no cell in front of them. -/
theorem lead_of_toList {ground : Tint} {colour : Colour} {first : String} {c : Char}
    {more : List Char} (hfirst : first.toList = c :: more) (hc : Text.charWidth c ≠ 0)
    (rest : List (Colour × String)) :
    ∀ g ∈ (inkedOn ground ((colour, first) :: rest)).head?, Text.charWidth g.glyph ≠ 0 := by
  intro g hg
  simp only [inkedOn, List.flatMap_cons, hfirst, List.map_cons, List.cons_append, List.head?_cons,
    Option.mem_def, Option.some.injEq] at hg
  rwa [← hg]

namespace Box

section Picture

variable (box : Box) (hcolumns : 2 ≤ box.width) (hrows : 2 ≤ box.height) (hx : box.x < 65536)
  (hy : box.y + box.height ≤ 65536) (title : String) (lines : List (String × Colour))

include hx hy

theorem leaves_line {row : Nat} (hrow : row < box.innerHeight) (text : String) (colour : Colour) :
    Leaves (fun _ => True) (box.line row text colour)
      (rowAt (box.y + 1 + row) box.x
        (rowCells box.background.palette? (box.linePieces text colour))) := by
  have hinner : row + 2 < box.height := by
    unfold innerHeight at hrow
    omega
  have hside : Text.charWidth '│' ≠ 0 := by decide +kernel
  have hfirst : "│".toList = ['│'] := rfl
  rw [line_eq_inColours box hrow]
  exact leaves_onGround hx (by omega) _ (lead_of_toList hfirst hside _)

include hrows in
theorem leaves_topBorder :
    Leaves (fun _ => True) (box.topBorder title)
      (rowAt box.y box.x (rowCells box.background.palette? (box.topPieces title))) := by
  have hcorner : Text.charWidth '┌' ≠ 0 := by decide +kernel
  rw [topBorder_eq_inColours]
  exact leaves_onGround hx (by omega) _ (lead_of_toList (String.toList_append ..) hcorner _)

theorem leaves_bottomBorder :
    Leaves (fun _ => True) box.bottomBorder
      (rowAt (box.y + box.height - 1) box.x
        (rowCells box.background.palette? box.bottomPieces)) := by
  have hcorner : Text.charWidth '└' ≠ 0 := by decide +kernel
  have htext : ("└" ++ Text.copies box.innerWidth '─' ++ "┘").toList =
      '└' :: ((Text.copies box.innerWidth '─').toList ++ ['┘']) := by simp
  rw [bottomBorder_eq_inColours]
  exact leaves_onGround hx (by omega) _ (lead_of_toList htext hcorner _)

/-- Lines past the lower border are not drawn. -/
theorem leaves_lines :
    Leaves (fun _ => True) (lines.zipIdx.flatMap fun line => box.line line.2 line.1.1 line.1.2)
      (rowsFrom (box.y + 1) box.x (min lines.length box.innerHeight) fun i =>
        rowCells box.background.palette? (box.linePieces (lines.getD i ("", .white)).1
          (lines.getD i ("", .white)).2)) := by
  rw [zipIdx_eq_map_range lines ("", Colour.white), List.flatMap_map]
  have hsplit : lines.length =
      min lines.length box.innerHeight + (lines.length - box.innerHeight) := by omega
  have hdropped : ((List.range (lines.length - box.innerHeight)).map
      (min lines.length box.innerHeight + ·)).flatMap (fun i => box.line i
        (lines.getD i ("", .white)).1 (lines.getD i ("", .white)).2) = [] := by
    rw [List.flatMap_eq_nil_iff]
    intro i hi
    obtain ⟨past, hpast, rfl⟩ := List.mem_map.mp hi
    have := List.mem_range.mp hpast
    exact if_pos (by omega)
  rw [hsplit, List.range_add, List.flatMap_append, hdropped, List.append_nil, ← hsplit]
  exact leaves_range fun i hi => leaves_line box hx hy (by omega) _ _

include hcolumns hrows in
/-- The lines are seen over the blank inside. -/
theorem leaves_frame_lines :
    Leaves (fun _ => True)
      (box.frame title ++ lines.zipIdx.flatMap fun line => box.line line.2 line.1.1 line.1.2)
      (rowsFrom box.y box.x box.height fun row =>
        rowCells box.background.palette? (box.rowPieces title lines row)) := by
  have hblank : Leaves (fun _ => True)
      ((List.range box.innerHeight).flatMap fun row => box.line row "" .white)
      (rowsFrom (box.y + 1) box.x box.innerHeight fun _ =>
        rowCells box.background.palette? (box.linePieces "" .white)) :=
    leaves_range fun i hi => leaves_line box hx hy hi _ _
  have hall := (((leaves_topBorder box hrows hx hy title).append hblank).append
    (leaves_bottomBorder box hx hy)).append (leaves_lines box hx hy lines)
  have hheight : box.height = 1 + box.innerHeight + 1 := by
    unfold innerHeight
    omega
  have hbottom : box.y + box.height - 1 = box.y + (1 + box.innerHeight) := by omega
  have hlength (i : Nat) (_ : i < min lines.length box.innerHeight) :
      (rowCells box.background.palette? (box.linePieces (lines.getD i ("", .white)).1
        (lines.getD i ("", .white)).2)).length =
      (rowCells box.background.palette? (box.linePieces "" .white)).length := by
    rw [length_linePieces box hcolumns, length_linePieces box hcolumns]
  -- The lower border has no row in common with the lines, so it can be drawn after them.
  rw [rowAt, rowAt, hbottom, ← Picture.drawnOver_assoc, rowsFrom_comm (by omega),
    Picture.drawnOver_assoc, ← Picture.drawnOver_assoc _ _ (rowsFrom box.y _ _ _),
    rowsFrom_drawnOver (Nat.min_le_right _ _) hlength, rowsFrom_below, rowsFrom_below,
    ← hheight] at hall
  refine (congrArg (Leaves _ _) (rowsFrom_congr fun row hrow => ?_)).mpr hall
  cases row with
  | zero =>
    rw [if_pos (by omega), if_pos Nat.one_pos]
    rfl
  | succ row =>
    by_cases hin : row < box.innerHeight
    · rw [rowPieces_line box title lines hin, if_pos (by omega), if_neg (by omega),
        Nat.add_sub_cancel]
      by_cases hgiven : row < lines.length
      · rw [if_pos (by omega)]
      · rw [if_neg (by omega), List.getD_eq_getElem?_getD, List.getElem?_eq_none (by omega)]
        rfl
    · rw [rowPieces_bottom box title lines (by omega), if_neg (by omega)]

end Picture

end Box

/-! ## The sides of a box -/

/-- A glyph behind two cells or more leaves the first one alone. -/
theorem addGlyph_cons {cells : List Cell} (h : cells ≠ []) (cell : Cell) (g : Inked) :
    addGlyph (cell :: cells) g = cell :: addGlyph cells g := by
  obtain ⟨first, rest, rfl⟩ := List.exists_cons_of_ne_nil h
  unfold addGlyph
  split
  · rfl
  · rfl

theorem foldl_addGlyph_cons {cells : List Cell} (h : cells ≠ []) (cell : Cell)
    (glyphs : List Inked) :
    glyphs.foldl addGlyph (cell :: cells) = cell :: glyphs.foldl addGlyph cells := by
  induction glyphs generalizing cells with
  | nil => rfl
  | cons g rest ih =>
    rw [List.foldl_cons, addGlyph_cons h, ih (addGlyph_ne_nil fun hnone => absurd hnone h),
      List.foldl_cons]

/-- The first cell keeps its glyph. The marks that the glyphs behind it begin with go onto it. -/
theorem foldl_addGlyph_singleton (text : List Char) (ink ground : Tint) (glyphs : List Inked) :
    ∃ marks content, marks <+: glyphs.map Inked.glyph ∧ (∀ c ∈ marks, Text.charWidth c = 0) ∧
      glyphs.foldl addGlyph [⟨text, ink, ground⟩] = ⟨text ++ marks, ink, ground⟩ :: content := by
  induction glyphs generalizing text with
  | nil => exact ⟨[], [], List.nil_prefix, fun c hc => absurd hc List.not_mem_nil, by simp⟩
  | cons g rest ih =>
    by_cases hmark : Text.charWidth g.glyph = 0
    · obtain ⟨marks, content, hbegin, hmarks, hcells⟩ := ih (text ++ [g.glyph])
      refine ⟨g.glyph :: marks, content, List.cons_prefix_cons.mpr ⟨rfl, hbegin⟩,
        List.forall_mem_cons.mpr ⟨hmark, hmarks⟩, ?_⟩
      have hfirst : addGlyph [⟨text, ink, ground⟩] g = [⟨text ++ [g.glyph], ink, ground⟩] := by
        rw [addGlyph, if_pos hmark]
        rfl
      rw [List.foldl_cons, hfirst, hcells, List.append_assoc, List.singleton_append]
    · have hcells : (g :: rest).foldl addGlyph [⟨text, ink, ground⟩] = ⟨text, ink, ground⟩ ::
          rest.foldl addGlyph (⟨[g.glyph], g.ink, g.ground⟩ ::
            List.replicate (Text.charWidth g.glyph - 1) ⟨[], g.ink, g.ground⟩) := by
        rw [List.foldl_cons, addGlyph, if_neg hmark]
        exact foldl_addGlyph_cons (List.cons_ne_nil _ _) _ rest
      rw [hcells]
      exact ⟨[], _, List.nil_prefix, fun c hc => absurd hc List.not_mem_nil,
        by rw [List.append_nil]⟩

/-- A line has the sides of the box around exactly its inner columns. -/
theorem Box.sides_linePieces (box : Box) (h : 2 ≤ box.width) (ground : Tint) (text : String)
    (colour : Colour) :
    ∃ marks content, marks <+: (Text.fit text box.innerWidth).toList ∧
      (∀ c ∈ marks, Text.charWidth c = 0) ∧ content.length = box.innerWidth ∧
      rowCells ground (box.linePieces text colour) =
        ⟨'│' :: marks, Colour.white.palette?, ground⟩ ::
          (content ++ [⟨['│'], Colour.white.palette?, ground⟩]) := by
  have hside : Text.charWidth '│' = 1 := by decide +kernel
  obtain ⟨marks, content, hbegin, hmarks, hcells⟩ := foldl_addGlyph_singleton ['│']
    Colour.white.palette? ground (inkedOn ground [(colour, Text.fit text box.innerWidth)])
  have hglyphs : inkedOn ground (box.linePieces text colour) =
      ⟨'│', Colour.white.palette?, ground⟩ ::
        (inkedOn ground [(colour, Text.fit text box.innerWidth)] ++
          [⟨'│', Colour.white.palette?, ground⟩]) := by
    simp [inkedOn, linePieces]
  have hrow : rowCells ground (box.linePieces text colour) =
      ⟨'│' :: marks, Colour.white.palette?, ground⟩ ::
        (content ++ [⟨['│'], Colour.white.palette?, ground⟩]) := by
    rw [rowCells, laid, hglyphs, List.foldl_cons, List.foldl_append, addGlyph]
    simp only [hside, if_neg Nat.one_ne_zero, Nat.sub_self, List.replicate_zero, List.nil_append]
    rw [hcells, List.foldl_cons, List.foldl_nil, addGlyph]
    simp [hside]
  refine ⟨marks, content, by simpa [map_glyph_inkedOn] using hbegin, hmarks, ?_, hrow⟩
  have hlength := box.length_linePieces h ground text colour
  rw [hrow] at hlength
  simp only [List.length_cons, List.length_append, List.length_nil] at hlength
  unfold innerWidth
  omega

/-! ## Boxes on a screen -/

namespace Box

/-- The box is on the screen, with margins on opposite sides that differ by no more than one. -/
structure InMiddle (box : Box) (screenWidth screenHeight : Nat) : Prop where
  columns : ∃ right, box.x + box.width + right = screenWidth ∧ box.x ≤ right ∧ right ≤ box.x + 1
  rows : ∃ below, box.y + box.height + below = screenHeight ∧ box.y ≤ below ∧ below ≤ box.y + 1

/-- A row of the inside shows a text between the sides of the box. The sides have one glyph each,
and marks without a glyph in front of them go onto the first side. -/
structure LineShown (box : Box) (screen : Terminal) (row : Nat) (text : String)
    (colour : Colour) : Prop where
  cells : screen.stretch (box.y + 1 + row) box.x box.width =
    rowCells box.background.palette? [(.white, "│"), (colour, text), (.white, "│")]
  sides : ∃ marks content, marks <+: text.toList ∧ (∀ c ∈ marks, Text.charWidth c = 0) ∧
    content.length = box.innerWidth ∧
    screen.stretch (box.y + 1 + row) box.x box.width =
      ⟨'│' :: marks, Colour.white.palette?, box.background.palette?⟩ ::
        (content ++ [⟨['│'], Colour.white.palette?, box.background.palette?⟩])

/-- The screen shows the whole box: the title in the middle of the upper border, the lower border,
and a line of text in each row between them, where a row without a line is blank. -/
structure Shown (box : Box) (screen : Terminal) (title : String) (lines : List (String × Colour)) :
    Prop where
  top : ∃ left right, left + Text.displayWidth (Text.clip title box.innerWidth) + right =
      box.innerWidth ∧ left ≤ right ∧ right ≤ left + 1 ∧
    screen.stretch box.y box.x box.width = rowCells box.background.palette?
      [(.white, "┌" ++ Text.copies left '─'), (.yellow, Text.clip title box.innerWidth),
        (.white, Text.copies right '─' ++ "┐")]
  bottom : screen.stretch (box.y + box.height - 1) box.x box.width =
    rowCells box.background.palette? [(.white, "└" ++ Text.copies box.innerWidth '─' ++ "┘")]
  line : ∀ row < box.innerHeight, box.LineShown screen row
    (Text.fit (lines.getD row ("", .white)).1 box.innerWidth) (lines.getD row ("", .white)).2

/-- The cell is one of the box. -/
def Has (box : Box) (row column : Nat) : Prop :=
  (box.y ≤ row ∧ row < box.y + box.height) ∧ box.x ≤ column ∧ column < box.x + box.width

theorem centered?_eq_none_iff {screenWidth screenHeight width height : Nat} {ground : Colour} :
    centered? screenWidth screenHeight width height ground = none ↔
      min width screenWidth < 4 ∨ min height screenHeight < 3 := by
  unfold centered? minWidth minHeight
  dsimp only
  split
  · rename_i hsmall
    simpa using hsmall
  · rename_i hroom
    simpa using hroom

theorem inMiddle_of_centered {screenWidth screenHeight width height : Nat} {ground : Colour}
    {box : Box} (h : centered? screenWidth screenHeight width height ground = some box) :
    box.InMiddle screenWidth screenHeight ∧ box.width = min width screenWidth ∧
      box.height = min height screenHeight ∧ box.background = ground := by
  unfold centered? at h
  dsimp only at h
  split at h
  · exact absurd h (by simp)
  · obtain rfl := Option.some.inj h
    refine ⟨⟨⟨screenWidth - min width screenWidth - (screenWidth - min width screenWidth) / 2, ?_⟩,
      ⟨screenHeight - min height screenHeight - (screenHeight - min height screenHeight) / 2, ?_⟩⟩,
      rfl, rfl, rfl⟩
    · dsimp only
      omega
    · dsimp only
      omega

section Shown

variable {screenWidth screenHeight width : Nat} {ground : Colour} {lines : List (String × Colour)}
  {box : Box} (h : centered? screenWidth screenHeight width (lines.length + 2) ground = some box)
  (hwidth : screenWidth ≤ 65536) (hheight : screenHeight ≤ 65536) (title : String)

include h hwidth hheight

theorem leaves_modal :
    Leaves (fun _ => True) (modal screenWidth screenHeight width ground title lines)
      (rowsFrom box.y box.x box.height fun row =>
        rowCells box.background.palette? (box.rowPieces title lines row)) := by
  obtain ⟨hcolumns, hrows⟩ := fits_of_centered h
  rw [modal, h]
  exact leaves_frame_lines box hcolumns.1 hrows.1 (by omega) (by omega) title lines

/-- Cells around the box stay as they were. -/
theorem cells_around (t : Terminal) {row column : Nat} (hout : ¬ box.Has row column) :
    (t.obeyAll (signsOf (modal screenWidth screenHeight width ground title lines))).cells row
      column = t.cells row column := by
  obtain ⟨hcolumns, _⟩ := fits_of_centered h
  rw [(leaves_modal h hwidth hheight title).cells t trivial]
  by_cases hin : box.y ≤ row ∧ row < box.y + box.height ∧ box.x ≤ column
  · have hright : box.width ≤ column - box.x := by
      unfold Has at hout
      omega
    rw [rowsFrom_inside hin, List.getElem?_eq_none
      (by rw [box.length_rowPieces hcolumns.1]; exact hright)]
    rfl
  · rw [rowsFrom_outside hin]
    rfl

theorem stretch_modal (t : Terminal) {row : Nat} (hrow : row < box.height) :
    (t.obeyAll (signsOf (modal screenWidth screenHeight width ground title lines))).stretch
      (box.y + row) box.x box.width =
        rowCells box.background.palette? (box.rowPieces title lines row) := by
  obtain ⟨hcolumns, _⟩ := fits_of_centered h
  have hstretch := (leaves_modal h hwidth hheight title).stretch (t := t) trivial hrow
  rwa [box.length_rowPieces hcolumns.1] at hstretch

theorem shown_modal (t : Terminal) :
    box.Shown (t.obeyAll (signsOf (modal screenWidth screenHeight width ground title lines)))
      title lines := by
  obtain ⟨hcolumns, hrows⟩ := fits_of_centered h
  have hinner : box.innerHeight + 2 = box.height := by
    unfold innerHeight
    omega
  have hused := Text.displayWidth_clip_le title box.innerWidth
  have htop := stretch_modal h hwidth hheight title t (by omega : 0 < box.height)
  refine ⟨⟨_, _, ?_, ?_, ?_, htop⟩, ?_, ?_⟩
  · omega
  · omega
  · omega
  · have hlast := stretch_modal h hwidth hheight title t
      (by omega : box.innerHeight + 1 < box.height)
    have hplace : box.y + (box.innerHeight + 1) = box.y + box.height - 1 := by omega
    rwa [hplace, rowPieces_bottom box title lines (Nat.le_refl _)] at hlast
  · intro row hrow
    have hline := stretch_modal h hwidth hheight title t
      (by omega : row + 1 < box.height)
    rw [rowPieces_line box title lines hrow, Nat.add_comm row 1, ← Nat.add_assoc] at hline
    obtain ⟨marks, content, hbegin, hmarks, hlength, hsides⟩ := sides_linePieces box hcolumns.1
      box.background.palette? (lines.getD row ("", .white)).1 (lines.getD row ("", .white)).2
    exact ⟨hline, marks, content, hbegin, hmarks, hlength, hline.trans hsides⟩

end Shown

end Box

/-! ## The laws -/

/-- A box of any wanted width around any lines, on a screen of any size. Without room for a border
and a little inside nothing is drawn. Otherwise the box is in the middle of the screen, as wide and
as high as was wanted or as there is room for. All that it writes is inside it, and the cells
around it stay as they were. Whatever was there before, the box is left whole: its title is cut to
the inner width, and so is each of its lines, or padded to it. Lines that find no row are not
drawn. A terminal reads texts without control characters as what they are. -/
theorem a_box_is_left_whole {screenWidth screenHeight : Nat} (hwidth : screenWidth < 65536)
    (hheight : screenHeight < 65536) (width : Nat) (ground : Colour) (title : String)
    (lines : List (String × Colour)) :
    let strokes := modal screenWidth screenHeight width ground title lines
    let tooSmall := min width screenWidth < 4 ∨ min (lines.length + 2) screenHeight < 3
    (tooSmall → strokes = []) ∧
      (¬ tooSmall → ∃ box : Box,
        box.width = min width screenWidth ∧ box.height = min (lines.length + 2) screenHeight ∧
        box.background = ground ∧ box.InMiddle screenWidth screenHeight ∧
        Inside box.x box.y box.width box.height strokes ∧
        (∀ text, Text.displayWidth (Text.fit text box.innerWidth) = box.innerWidth) ∧
        ∀ t : Terminal, box.Shown (t.obeyAll (signsOf strokes)) title lines ∧
          ∀ row column, ¬ box.Has row column →
            (t.obeyAll (signsOf strokes)).cells row column = t.cells row column) ∧
      (Text.Clean title → (∀ line ∈ lines, Text.Clean line.1) →
        read? (Stroke.encodeAll strokes) = some (signsOf strokes)) := by
  intro strokes tooSmall
  refine ⟨fun hsmall => ?_, fun hroom => ?_, fun htitle hlines => ?_⟩
  · simp only [strokes, modal, Box.centered?_eq_none_iff.mpr hsmall]
  · obtain ⟨box, hbox⟩ := Option.ne_none_iff_exists'.mp
      fun hnone => hroom (Box.centered?_eq_none_iff.mp hnone)
    obtain ⟨hmiddle, hcolumns, hrows, hground⟩ := Box.inMiddle_of_centered hbox
    have hwidth := Nat.le_of_lt hwidth
    have hheight := Nat.le_of_lt hheight
    exact ⟨box, hcolumns, hrows, hground, hmiddle,
      inside_modal_of_centered hwidth hheight title hbox, fun text => Text.displayWidth_fit _ _,
      fun t => ⟨Box.shown_modal hbox hwidth hheight title t, fun row column hout =>
        Box.cells_around hbox hwidth hheight title t hout⟩⟩
  · refine read?_encodeAll (KeepTo.clean ?_)
    exact keepTo_modal _ _ _ _ htitle fun line hline =>
      Text.keepsTo_false.mpr (hlines line hline)

/-- Four rows hold two of three lines. The title loses a glyph of two columns and leaves one column
to the right of it, a line is cut inside its fourth glyph, and a mark stays on its letter. -/
theorem a_low_screen_leaves_the_last_line_out :
    let lines := [("日本語文", Colour.white), ("e\u0301", .grey), ("c", .white)]
    12 < 65536 ∧ 4 < 65536 ∧ ∀ t : Terminal,
      let screen := t.obeyAll (signsOf (modal 12 4 9 .darkRed "編集長部" lines))
      screen.stretch 0 1 9 =
          rowCells (some 1) [(.white, "┌"), (.yellow, "編集長"), (.white, "─┐")] ∧
        screen.stretch 1 1 9 = rowCells (some 1) [(.white, "│"), (.white, "日本語 "), (.white, "│")] ∧
        screen.stretch 2 1 9 =
          rowCells (some 1) [(.white, "│"), (.grey, "e\u0301      "), (.white, "│")] ∧
        screen.stretch 3 1 9 = rowCells (some 1) [(.white, "└───────┘")] := by
  intro lines
  obtain ⟨_, hbox, _⟩ := a_box_is_left_whole (by decide : 12 < 65536) (by decide : 4 < 65536) 9
    .darkRed "編集長部" lines
  obtain ⟨⟨x, y, width, height, ground⟩, hcolumns, hrows, hground, hmiddle, _, _, hshown⟩ :=
    hbox (by decide)
  obtain ⟨right, hright⟩ := hmiddle.columns
  obtain ⟨below, hbelow⟩ := hmiddle.rows
  simp only at hcolumns hrows hground hright hbelow
  obtain rfl : width = 9 := by omega
  obtain rfl : height = 4 := hrows
  obtain rfl : x = 1 := by omega
  obtain rfl : y = 0 := by omega
  obtain rfl := hground
  refine ⟨by decide, by decide, fun t => ?_⟩
  intro screen
  obtain ⟨⟨left, right, hsum, hleft, hright, htop⟩, hbottom, hline⟩ := (hshown t).1
  have hclip : Text.clip "編集長部" 7 = "編集長" := by decide +kernel
  have hused : Text.displayWidth "編集長" = 6 := by decide +kernel
  have hfit : Text.fit "日本語文" 7 = "日本語 " := by decide +kernel
  have hmark : Text.fit "e\u0301" 7 = "e\u0301      " := by decide +kernel
  have hfirst : screen.stretch 1 1 9 = rowCells (some 1)
      [(.white, "│"), (.white, Text.fit "日本語文" 7), (.white, "│")] := (hline 0 (by decide)).cells
  have hsecond : screen.stretch 2 1 9 = rowCells (some 1)
      [(.white, "│"), (.grey, Text.fit "e\u0301" 7), (.white, "│")] := (hline 1 (by decide)).cells
  change left + Text.displayWidth (Text.clip "編集長部" 7) + right = 7 at hsum
  rw [hclip, hused] at hsum
  obtain rfl : left = 0 := by omega
  obtain rfl : right = 1 := by omega
  refine ⟨?_, hfit ▸ hfirst, hmark ▸ hsecond, hbottom⟩
  change screen.stretch 0 1 9 = rowCells (some 1)
    [(.white, "┌"), (.yellow, Text.clip "編集長部" 7), (.white, "─┐")] at htop
  rwa [hclip] at htop

end ProcessMonitor.Screen
