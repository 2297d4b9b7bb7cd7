-- The pictures that strokes leave on a terminal. Glyphs side by side are cells: a wide one takes
-- further cells behind its first one, and a mark goes onto the cell in front of it. A picture
-- tells some cells of a screen, and of two pictures drawn one after the other the later one is
-- seen where both tell a cell.
import ProcessMonitor.Proofs.FrameLines

namespace ProcessMonitor.Screen

/-! ## Cells of glyphs -/

/-- A glyph in its colours. -/
structure Inked where
  glyph : Char
  ink : Tint
  ground : Tint
deriving DecidableEq, Repr

/-- One more glyph behind cells. -/
def addGlyph (cells : List Cell) (g : Inked) : List Cell :=
  if Text.charWidth g.glyph = 0 then
    cells.modify (cells.length - 1) fun cell => { cell with text := cell.text ++ [g.glyph] }
  else
    cells ++ ⟨[g.glyph], g.ink, g.ground⟩ ::
      List.replicate (Text.charWidth g.glyph - 1) ⟨[], g.ink, g.ground⟩

/-- The cells of glyphs side by side. A mark in front of all glyphs has no cell. -/
def laid (glyphs : List Inked) : List Cell := glyphs.foldl addGlyph []

/-- The glyphs of coloured texts on one ground. -/
def inkedOn (ground : Tint) (pieces : List (Colour × String)) : List Inked :=
  pieces.flatMap fun (colour, text) => text.toList.map fun c => ⟨c, colour.palette?, ground⟩

/-- The cells of coloured texts side by side on one ground. -/
def rowCells (ground : Tint) (pieces : List (Colour × String)) : List Cell :=
  laid (inkedOn ground pieces)

section AddGlyph

variable {cells : List Cell} {g : Inked}

theorem length_addGlyph : (addGlyph cells g).length = cells.length + Text.charWidth g.glyph := by
  unfold addGlyph
  split
  · rename_i hmark
    rw [List.length_modify, hmark, Nat.add_zero]
  · rw [List.length_append, List.length_cons, List.length_replicate]
    omega

theorem getElem?_addGlyph_mark (h : Text.charWidth g.glyph = 0) (i : Nat) :
    (addGlyph cells g)[i]? =
      if i + 1 = cells.length then
        cells[i]?.map fun cell => { cell with text := cell.text ++ [g.glyph] }
      else cells[i]? := by
  rw [addGlyph, if_pos h]
  by_cases hlast : i + 1 = cells.length
  · have hplace : cells.length - 1 = i := by omega
    rw [if_pos hlast, hplace, List.getElem?_modify_eq]
    rfl
  · rw [if_neg hlast]
    by_cases hnone : cells = []
    · -- Without a cell there is none to put the mark on.
      rw [hnone, List.modify_nil]
    · have hlength := List.length_pos_iff.mpr hnone
      have hplace : cells.length - 1 ≠ i := by omega
      exact List.getElem?_modify_ne _ _ hplace

theorem getElem?_addGlyph_wide (h : Text.charWidth g.glyph ≠ 0) (i : Nat) :
    (addGlyph cells g)[i]? =
      if cells.length ≤ i ∧ i < cells.length + Text.charWidth g.glyph then
        some ⟨if i = cells.length then [g.glyph] else [], g.ink, g.ground⟩
      else cells[i]? := by
  rw [addGlyph, if_neg h]
  by_cases hfront : i < cells.length
  · rw [List.getElem?_append_left hfront, if_neg (by omega)]
  · rw [List.getElem?_append_right (by omega), List.getElem?_cons]
    by_cases hfirst : i = cells.length
    · rw [if_pos (by omega), if_pos (by omega), if_pos hfirst]
    · rw [if_neg (by omega), List.getElem?_replicate, if_neg hfirst]
      by_cases hlast : i < cells.length + Text.charWidth g.glyph
      · rw [if_pos (by omega), if_pos (by omega)]
      · rw [if_neg (by omega), if_neg (by omega), List.getElem?_eq_none (by omega)]

theorem addGlyph_ne_nil (h : cells = [] → Text.charWidth g.glyph ≠ 0) : addGlyph cells g ≠ [] := by
  rw [← List.length_pos_iff, length_addGlyph]
  by_cases hcells : cells = []
  · have := h hcells
    omega
  · have := List.length_pos_iff.mpr hcells
    omega

end AddGlyph

theorem length_foldl_addGlyph (cells : List Cell) (glyphs : List Inked) :
    (glyphs.foldl addGlyph cells).length =
      cells.length + Text.width (glyphs.map Inked.glyph) := by
  induction glyphs generalizing cells with
  | nil => rfl
  | cons g rest ih =>
    rw [List.foldl_cons, ih, length_addGlyph, List.map_cons, Text.width, Nat.add_assoc]

/-- Glyphs of one column each have a cell each. -/
theorem laid_of_narrow {glyphs : List Inked} (h : ∀ g ∈ glyphs, Text.charWidth g.glyph = 1) :
    laid glyphs = glyphs.map fun g => ⟨[g.glyph], g.ink, g.ground⟩ := by
  have hall (cells : List Cell) : glyphs.foldl addGlyph cells =
      cells ++ glyphs.map fun g => ⟨[g.glyph], g.ink, g.ground⟩ := by
    induction glyphs generalizing cells with
    | nil => exact (List.append_nil cells).symm
    | cons g rest ih =>
      have hone := h g List.mem_cons_self
      have hadded : addGlyph cells g = cells ++ [⟨[g.glyph], g.ink, g.ground⟩] := by
        simp [addGlyph, hone]
      rw [List.foldl_cons, hadded, ih fun other hother => h other (List.mem_cons_of_mem g hother),
        List.append_assoc, List.map_cons, List.singleton_append]
  exact hall []

/-! ## Glyphs among signs -/

/-- The glyphs among signs, in the colours that are set when they are written. -/
def inkedBy (ink ground : Tint) : List Sign → List Inked
  | [] => []
  | .glyph c :: rest => ⟨c, ink, ground⟩ :: inkedBy ink ground rest
  | .ink tint :: rest => inkedBy tint ground rest
  | .ground tint :: rest => inkedBy ink tint rest
  | .plain :: rest => inkedBy none none rest
  | .moveTo _ _ :: rest => inkedBy ink ground rest

@[simp] theorem inkedBy_nil (ink ground : Tint) : inkedBy ink ground [] = [] := rfl

@[simp] theorem inkedBy_glyphs (ink ground : Tint) (text : List Char) (rest : List Sign) :
    inkedBy ink ground (text.map Sign.glyph ++ rest) =
      text.map (⟨·, ink, ground⟩) ++ inkedBy ink ground rest := by
  induction text with
  | nil => rfl
  | cons c text ih => rw [List.map_cons, List.cons_append, inkedBy, ih]; rfl

/-- Coloured texts side by side. -/
def inColours (pieces : List (Colour × String)) : List Stroke :=
  pieces.flatMap fun (colour, text) => [.foreground colour, .print text]

@[simp] theorem inColours_nil : inColours [] = [] := rfl

@[simp] theorem inColours_cons (piece : Colour × String) (rest : List (Colour × String)) :
    inColours (piece :: rest) = .foreground piece.1 :: .print piece.2 :: inColours rest := rfl

/-- Behind coloured texts the colours are set anew. -/
theorem inkedBy_inColours (ink ground : Tint) (pieces : List (Colour × String))
    (behind : List Stroke) :
    inkedBy ink ground (signsOf (inColours pieces ++ .plain :: behind)) =
      inkedOn ground pieces ++ inkedBy none none (signsOf behind) := by
  induction pieces generalizing ink with
  | nil => rfl
  | cons piece rest ih =>
    simp only [inColours_cons, List.cons_append, signsOf_cons, Stroke.signs, List.nil_append,
      inkedBy, inkedBy_glyphs, ih, inkedOn, List.flatMap_cons, List.append_assoc]

theorem runs_inColours (pieces : List (Colour × String)) {count : Nat} {behind : List Stroke}
    (h : Runs count behind) : ∃ columns, Runs columns (inColours pieces ++ behind) := by
  induction pieces with
  | nil => exact ⟨count, h⟩
  | cons piece rest ih =>
    obtain ⟨columns, hrest⟩ := ih
    exact ⟨_, (hrest.print piece.2).foreground piece.1⟩

/-! ## Pictures -/

/-- What is told of the cells of a screen, by their row and column. -/
def Picture := Nat → Nat → Option Cell

namespace Picture

/-- Nothing is told. -/
def nothing : Picture := fun _ _ => none

/-- A picture drawn over another. -/
def drawnOver (later picture : Picture) : Picture := fun row column =>
  (later row column).or (picture row column)

theorem drawnOver_assoc (last later picture : Picture) :
    (last.drawnOver later).drawnOver picture = last.drawnOver (later.drawnOver picture) := by
  funext row column
  exact Option.or_assoc

end Picture

/-- Rows one below the other from row `y` on, each with cells from column `x` on. -/
def rowsFrom (y x count : Nat) (cells : Nat → List Cell) : Picture := fun row column =>
  if y ≤ row ∧ row < y + count ∧ x ≤ column then (cells (row - y))[column - x]? else none

/-- The cells of one row. -/
def rowAt (y x : Nat) (cells : List Cell) : Picture := rowsFrom y x 1 fun _ => cells

section RowsFrom

variable {y x count more : Nat} {upper lower seen under : Nat → List Cell}

theorem rowsFrom_inside {row column : Nat} (h : y ≤ row ∧ row < y + count ∧ x ≤ column) :
    rowsFrom y x count upper row column = (upper (row - y))[column - x]? := if_pos h

theorem rowsFrom_outside {row column : Nat} (h : ¬ (y ≤ row ∧ row < y + count ∧ x ≤ column)) :
    rowsFrom y x count upper row column = none := if_neg h

theorem rowAt_eq (cells : List Cell) (row column : Nat) :
    rowAt y x cells row column =
      if row = y ∧ x ≤ column then cells[column - x]? else none := by
  unfold rowAt
  by_cases h : row = y ∧ x ≤ column
  · rw [if_pos h, rowsFrom_inside (by omega)]
  · rw [if_neg h, rowsFrom_outside (by omega)]

theorem rowsFrom_zero : rowsFrom y x 0 upper = Picture.nothing := by
  funext row column
  exact rowsFrom_outside (by omega)

theorem rowsFrom_congr (h : ∀ i < count, upper i = lower i) :
    rowsFrom y x count upper = rowsFrom y x count lower := by
  funext row column
  by_cases hin : y ≤ row ∧ row < y + count ∧ x ≤ column
  · rw [rowsFrom_inside hin, rowsFrom_inside hin, h _ (by omega)]
  · rw [rowsFrom_outside hin, rowsFrom_outside hin]

/-- Rows below others. -/
theorem rowsFrom_below :
    (rowsFrom (y + count) x more lower).drawnOver (rowsFrom y x count upper) =
      rowsFrom y x (count + more) fun i => if i < count then upper i else lower (i - count) := by
  funext row column
  unfold Picture.drawnOver
  by_cases hlower : y + count ≤ row ∧ row < y + count + more ∧ x ≤ column
  · have hplace : row - y - count = row - (y + count) := by omega
    rw [rowsFrom_inside hlower, rowsFrom_outside (by omega), rowsFrom_inside (by omega),
      Option.or_none, if_neg (by omega), hplace]
  · rw [rowsFrom_outside hlower, Option.none_or]
    by_cases hupper : y ≤ row ∧ row < y + count ∧ x ≤ column
    · rw [rowsFrom_inside hupper, rowsFrom_inside (by omega), if_pos (by omega)]
    · rw [rowsFrom_outside hupper, rowsFrom_outside (by omega)]

/-- Rows apart from one another can be drawn in either order. -/
theorem rowsFrom_comm {y' : Nat} (h : y + count ≤ y') :
    (rowsFrom y x count upper).drawnOver (rowsFrom y' x more lower) =
      (rowsFrom y' x more lower).drawnOver (rowsFrom y x count upper) := by
  funext row column
  unfold Picture.drawnOver
  by_cases hupper : y ≤ row ∧ row < y + count ∧ x ≤ column
  · rw [rowsFrom_outside (by omega : ¬ (y' ≤ row ∧ _)), Option.or_none, Option.none_or]
  · rw [rowsFrom_outside hupper, Option.or_none, Option.none_or]

theorem getElem?_or_of_length {α : Type} {front back : List α} (h : front.length = back.length)
    (i : Nat) : front[i]?.or back[i]? = front[i]? := by
  by_cases hi : i < front.length
  · rw [List.getElem?_eq_getElem hi]
    rfl
  · rw [List.getElem?_eq_none (by omega), List.getElem?_eq_none (by omega)]
    rfl

/-- Rows over others of the same columns. -/
theorem rowsFrom_drawnOver (hmore : more ≤ count)
    (hlength : ∀ i < more, (seen i).length = (under i).length) :
    (rowsFrom y x more seen).drawnOver (rowsFrom y x count under) =
      rowsFrom y x count fun i => if i < more then seen i else under i := by
  funext row column
  unfold Picture.drawnOver
  by_cases hseen : y ≤ row ∧ row < y + more ∧ x ≤ column
  · rw [rowsFrom_inside hseen, rowsFrom_inside (by omega), rowsFrom_inside (by omega),
      getElem?_or_of_length (hlength _ (by omega)), if_pos (by omega)]
  · rw [rowsFrom_outside hseen, Option.none_or]
    by_cases hunder : y ≤ row ∧ row < y + count ∧ x ≤ column
    · rw [rowsFrom_inside hunder, rowsFrom_inside hunder, if_neg (by omega)]
    · rw [rowsFrom_outside hunder, rowsFrom_outside hunder]

end RowsFrom

/-! ## A row in the making -/

namespace Terminal

/-- The cursor stands behind cells that were written from column `x` of row `y` on, over what was
on the terminal before. -/
structure Writes (t : Terminal) (before : Nat → Nat → Cell) (y x : Nat) (cells : List Cell) :
    Prop where
  row : t.row = y
  column : t.column = x + cells.length
  cells : ∀ row column, t.cells row column = (rowAt y x cells row column).getD (before row column)

section Writes

variable {t : Terminal} {before : Nat → Nat → Cell} {y x : Nat} {cells : List Cell}

/-- A mark needs a cell of the row in front of it. -/
theorem Writes.write (h : t.Writes before y x cells) {c : Char}
    (hlead : cells = [] → Text.charWidth c ≠ 0) :
    (t.write c).Writes before y x (addGlyph cells ⟨c, t.ink, t.ground⟩) := by
  obtain ⟨hrow, hcolumn, hcells⟩ := h
  refine ⟨hrow, ?_, fun row column => ?_⟩
  · rw [length_addGlyph, ← Nat.add_assoc, ← hcolumn]
    rfl
  simp only [rowAt_eq] at hcells ⊢
  simp only [Terminal.write, hrow, hcolumn]
  by_cases hmark : Text.charWidth c = 0
  · have hlength : 0 < cells.length :=
      List.length_pos_iff.mpr fun hnone => hlead hnone hmark
    rw [if_neg (by omega), hcells]
    by_cases hin : row = y ∧ x ≤ column
    · rw [if_pos hin, if_pos hin, getElem?_addGlyph_mark hmark]
      by_cases hlast : column - x + 1 = cells.length
      · have hcell : cells[column - x]? = some cells[column - x] := by
          rw [List.getElem?_eq_getElem]
        rw [if_pos ⟨hmark, hin.1, by omega⟩, if_pos hlast, hcell]
        rfl
      · rw [if_neg (by omega), if_neg hlast]
    · rw [if_neg hin, if_neg hin, if_neg (by omega)]
  · rw [if_neg (fun hnone => hmark hnone.1 : ¬ (Text.charWidth c = 0 ∧ _)), hcells]
    by_cases hin : row = y ∧ x ≤ column
    · rw [if_pos hin, if_pos hin, getElem?_addGlyph_wide hmark]
      by_cases htaken : cells.length ≤ column - x ∧ column - x < cells.length + Text.charWidth c
      · have hfirst : column = x + cells.length ↔ column - x = cells.length := by omega
        rw [if_pos htaken, if_pos ⟨hin.1, by omega, by omega⟩, Option.getD_some]
        simp only [hfirst]
      · rw [if_neg htaken, if_neg (by omega)]
    · rw [if_neg hin, if_neg hin, if_neg (by omega)]

/-- Signs that do not move the cursor add their glyphs to the row. -/
theorem Writes.obeyAll {signs : List Sign} (h : t.Writes before y x cells) (hmoves : NoMoves signs)
    (hlead : cells = [] → ∀ g ∈ (inkedBy t.ink t.ground signs).head?, Text.charWidth g.glyph ≠ 0) :
    (t.obeyAll signs).Writes before y x
      ((inkedBy t.ink t.ground signs).foldl addGlyph cells) := by
  induction signs generalizing t cells with
  | nil => exact h
  | cons sign rest ih =>
    have hrest := hmoves.tail
    cases sign with
    | moveTo row column => exact absurd List.mem_cons_self (hmoves row column)
    | glyph c =>
      have hfirst : cells = [] → Text.charWidth c ≠ 0 := fun hnone => hlead hnone _ rfl
      refine ih (h.write hfirst) hrest fun hnone => ?_
      exact absurd hnone (addGlyph_ne_nil hfirst)
    | ink tint => exact ih (t := { t with ink := tint }) ⟨h.row, h.column, h.cells⟩ hrest hlead
    | ground tint =>
      exact ih (t := { t with ground := tint }) ⟨h.row, h.column, h.cells⟩ hrest hlead
    | plain =>
      exact ih (t := { t with ink := none, ground := none }) ⟨h.row, h.column, h.cells⟩ hrest hlead

end Writes

/-- The cells of a row from column `first` on. -/
def stretch (t : Terminal) (row first count : Nat) : List Cell :=
  (List.range count).map fun i => t.cells row (first + i)

/-- A part of a stretch. -/
theorem stretch_add (t : Terminal) (row first : Nat) {skipped count whole : Nat}
    (h : skipped + count ≤ whole) :
    t.stretch row (first + skipped) count =
      ((t.stretch row first whole).drop skipped).take count := by
  refine List.ext_getElem (by simp [stretch]; omega) fun i _ _ => ?_
  simp [stretch, Nat.add_assoc]

end Terminal

/-! ## What strokes leave -/

/-- On a terminal of the kind, the strokes leave the picture and every other cell as it was, and
the terminal is of the kind still. -/
structure Leaves (kind : Terminal → Prop) (strokes : List Stroke) (picture : Picture) : Prop where
  cells : ∀ t, kind t → ∀ row column, (t.obeyAll (signsOf strokes)).cells row column =
    (picture row column).getD (t.cells row column)
  kind : ∀ t, kind t → kind (t.obeyAll (signsOf strokes))

section Leaves

variable {kind : Terminal → Prop} {first second : List Stroke} {y x count : Nat}

theorem leaves_nil : Leaves kind [] Picture.nothing :=
  ⟨fun _ _ _ _ => rfl, fun _ ht => ht⟩

/-- Where both tell a cell, the later picture is seen. -/
theorem Leaves.append {picture later : Picture} (hfirst : Leaves kind first picture)
    (hsecond : Leaves kind second later) :
    Leaves kind (first ++ second) (later.drawnOver picture) := by
  refine ⟨fun t ht row column => ?_, fun t ht => ?_⟩
  · rw [signsOf_append, Terminal.obeyAll_append, hsecond.cells _ (hfirst.kind t ht),
      hfirst.cells t ht, Picture.drawnOver]
    cases later row column <;> rfl
  · rw [signsOf_append, Terminal.obeyAll_append]
    exact hsecond.kind _ (hfirst.kind t ht)

/-- A move and what is written behind it. -/
theorem leaves_line {rest : List Stroke} (hmoves : NoMoves (signsOf rest)) (hx : x < 65536)
    (hy : y < 65536) {glyphs : List Inked}
    (hglyphs : ∀ t, kind t → inkedBy t.ink t.ground (signsOf rest) = glyphs)
    (hlead : ∀ g ∈ glyphs.head?, Text.charWidth g.glyph ≠ 0)
    (hkind : ∀ t, kind t → kind (t.obeyAll (signsOf (.moveTo x y :: rest)))) :
    Leaves kind (.moveTo x y :: rest) (rowAt y x (laid glyphs)) := by
  refine ⟨fun t ht row column => ?_, hkind⟩
  have hstart : ({ t with row := y, column := x } : Terminal).Writes t.cells y x [] :=
    ⟨rfl, rfl, fun row column => by simp [rowAt_eq]⟩
  have hwritten := hstart.obeyAll hmoves
    (fun _ => by simpa only [hglyphs t ht] using hlead)
  have hcells := hwritten.cells row column
  simp only [hglyphs t ht] at hcells
  have hsigns : signsOf (.moveTo x y :: rest) = .moveTo y x :: signsOf rest := by
    rw [signsOf_cons, Stroke.signs, Nat.mod_eq_of_lt hx, Nat.mod_eq_of_lt hy]
    rfl
  rw [hsigns]
  exact hcells

/-- Coloured texts on a ground of their own. -/
theorem leaves_onGround (hx : x < 65536) (hy : y < 65536) (ground : Colour)
    {pieces : List (Colour × String)}
    (hlead : ∀ g ∈ (inkedOn ground.palette? pieces).head?, Text.charWidth g.glyph ≠ 0) :
    Leaves (fun _ => True) (.moveTo x y :: .background ground :: (inColours pieces ++ [.plain]))
      (rowAt y x (rowCells ground.palette? pieces)) := by
  obtain ⟨_, hruns⟩ := runs_inColours pieces Runs.nil.plain
  refine leaves_line (hruns.background ground).noMoves hx hy (fun t _ => ?_) hlead
    fun _ _ => trivial
  simp only [signsOf_cons, Stroke.signs, List.cons_append, List.nil_append, inkedBy,
    inkedBy_inColours]
  exact List.append_nil _

/-- What stands in each place of a list, by the places alone. -/
theorem zipIdx_eq_map_range {α : Type} (items : List α) (blank : α) :
    items.zipIdx = (List.range items.length).map fun i => (items.getD i blank, i) := by
  refine List.ext_getElem (by simp) fun i hi _ => ?_
  have hitem : i < items.length := by simpa using hi
  simp [hitem]

/-- A line for each number below `count`. -/
theorem leaves_range {draw : Nat → List Stroke} {cells : Nat → List Cell}
    (h : ∀ i < count, Leaves kind (draw i) (rowAt (y + i) x (cells i))) :
    Leaves kind ((List.range count).flatMap draw) (rowsFrom y x count cells) := by
  induction count with
  | zero =>
    rw [rowsFrom_zero]
    exact leaves_nil
  | succ count ih =>
    have hlast := (ih fun i hi => h i (Nat.lt_succ_of_lt hi)).append (h count (Nat.lt_succ_self _))
    have hpicture : rowsFrom y x (count + 1) cells =
        rowsFrom y x (count + 1) fun i => if i < count then cells i else cells count := by
      refine rowsFrom_congr fun i hi => ?_
      split
      · rfl
      · rw [Nat.eq_of_lt_succ_of_not_lt hi ‹_›]
    rw [List.range_succ, List.flatMap_append, List.flatMap_singleton, hpicture]
    rwa [rowAt, rowsFrom_below] at hlast

theorem Leaves.stretch {strokes : List Stroke} {cells : Nat → List Cell}
    (h : Leaves kind strokes (rowsFrom y x count cells)) {t : Terminal} (ht : kind t) {i : Nat}
    (hi : i < count) :
    (t.obeyAll (signsOf strokes)).stretch (y + i) x (cells i).length = cells i := by
  refine List.ext_getElem (by simp [Terminal.stretch]) fun column hcolumn hcell => ?_
  have hrow : y + i - y = i := by omega
  have hplace : x + column - x = column := by omega
  simp only [Terminal.stretch, List.getElem_map, List.getElem_range]
  rw [h.cells t ht, rowsFrom_inside (by omega), hrow, hplace, List.getElem?_eq_getElem hcell]
  rfl

end Leaves

end ProcessMonitor.Screen
