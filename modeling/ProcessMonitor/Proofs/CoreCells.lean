-- The laws of the cells of the processors. The layout counts rows and cells of a row, and the
-- renderer cuts the list of processors into rows on its own. Each processor that has a place is
-- drawn there once, in full, and what is left of a row is blank.
import ProcessMonitor.Proofs.FrameParts
import ProcessMonitor.Proofs.LayoutRows
import ProcessMonitor.Proofs.PieceCuts
import ProcessMonitor.Proofs.Pictures
import ProcessMonitor.Proofs.RoundingOrder

namespace ProcessMonitor

/-! ## Text of one column a character -/

namespace Text

/-- Each character takes one column. -/
def Narrow (text : String) : Prop := ∀ c ∈ text.toList, charWidth c = 1

theorem Narrow.displayWidth_eq {text : String} (h : Narrow text) :
    displayWidth text = text.length := by
  rw [displayWidth, ← String.length_toList]
  exact width_of_narrow h

theorem Printable.narrow {text : String} (h : Printable text) : Narrow text := fun c hc =>
  (h c hc).charWidth

@[simp] theorem narrow_append {first second : String} :
    Narrow (first ++ second) ↔ Narrow first ∧ Narrow second := by
  simp [Narrow, or_imp, forall_and]

theorem narrow_spaces (n : Nat) : Narrow (spaces n) := by
  intro c hc
  rw [spaces, String.toList_ofList] at hc
  rw [List.eq_of_mem_replicate hc]
  decide

@[simp] theorem narrow_padLeft {count : Nat} {text : String} :
    Narrow (padLeft count text) ↔ Narrow text := by
  simp [padLeft, narrow_spaces]

theorem length_padLeft (count : Nat) (text : String) :
    (padLeft count text).length = max count text.length := by
  simp only [padLeft, spaces, String.length_append, String.length_ofList, List.length_replicate]
  omega

end Text

/-! ## Percentages as text -/

namespace Double

theorem isFinite_of_isPercent {percent : Double} (h : percent.IsPercent) :
    percent.isFinite = true := by
  have hcode := code_le_of_le h.1 h.2
  have hlast : hundred.code < infinityCode := (code_ofNat_bounds (n := 100) (by decide)).2
  simp only [isFinite, decide_eq_true_eq]
  omega

theorem IsPercent.fixedSteps_le {percent : Double} (h : percent.IsPercent) :
    percent.fixedSteps 0 ≤ 100 := by
  have hunits : percent.units ≤ hundred.units :=
    codeUnits_mono significandBits (code_le_of_le h.1 h.2)
  have hhundred : hundred.units = 100 * unitsPerOne :=
    units_ofNat (n := 100) (by decide)
  unfold fixedSteps
  refine roundDiv_le_of_le_mul unitsPerOne_pos ?_
  rw [← hhundred]
  exact Nat.le_trans (Nat.le_of_eq (Nat.mul_one _)) hunits

/-- A percentage without decimal places has three characters at most, also the negative zero. -/
theorem IsPercent.length_fixed {percent : Double} (h : percent.IsPercent) :
    (percent.fixed 0).length ≤ 3 := by
  have hnumber := isNaN_of_isFinite (isFinite_of_isPercent h)
  have hfinite := isInfinite_of_isFinite (isFinite_of_isPercent h)
  have hfixed : percent.fixed 0 =
      (if percent.negative then "-" else "") ++ (percent.fixedSteps 0).repr := by
    simp [fixed, hnumber, hfinite, stepsText]
  rw [hfixed, String.length_append]
  by_cases hsign : percent.negative = true
  · have hcode : percent.code = 0 := by
      by_contra hcode
      rw [negative_of_zero_le h.1 hcode] at hsign
      exact absurd hsign Bool.false_ne_true
    have hsteps : percent.fixedSteps 0 = 0 := by
      have hnone : percent.units = 0 := by
        rw [units, hcode]
        decide
      simp [fixedSteps, hnone, roundDiv, unitsPerOne_pos]
    rw [if_pos hsign, hsteps]
    decide
  · have hdigits : (percent.fixedSteps 0).repr.length ≤ 3 :=
      (Nat.length_repr_le_iff (by decide)).mpr (Nat.lt_of_le_of_lt h.fixedSteps_le (by decide))
    rw [if_neg hsign]
    exact Nat.le_trans (Nat.le_of_eq (Nat.zero_add _)) hdigits

end Double

namespace Screen

open Text (Narrow displayWidth spaces)

/-! ## The text of a cell -/

theorem narrow_sparkline (samples : List Double) (length : Nat) :
    Narrow (sparkline samples length) := by
  refine Text.narrow_append.mpr ⟨Text.narrow_spaces _, fun c hc => ?_⟩
  rw [String.toList_ofList] at hc
  obtain ⟨value, _, rfl⟩ := List.mem_map.mp hc
  exact charWidth_block _

theorem length_sparkline (samples : List Double) (length : Nat) :
    (sparkline samples length).length = length := by
  have := length_newest samples length
  simp only [sparkline, spaces, String.length_append, String.length_ofList, List.length_replicate,
    List.length_map]
  omega

/-- What is told of a processor: its number, a small graph of its newest samples, and its use. -/
def coreText (rings : List Ring) (percents : List Double) (core : Nat) : String :=
  Text.padLeft 3 (toString core) ++ " " ++
    sparkline ((rings.getD core (Ring.empty 1)).last sparklineLength) sparklineLength ++ " " ++
    Text.padLeft 3 ((percents.getD core zeroPercent).fixed 0) ++ "%"

def coreColour (percents : List Double) (core : Nat) : Colour :=
  usageColour (percents.getD core zeroPercent)

section CoreText

variable (rings : List Ring) (percents : List Double) (core : Nat)

theorem narrow_coreText : Narrow (coreText rings percents core) := by
  have hnumber : Narrow (toString core) := (Text.printable_repr_nat core).narrow
  have hpercent : Narrow ((percents.getD core zeroPercent).fixed 0) :=
    (Text.printable_fixed 0 _).narrow
  have hblank : Narrow " " := Text.Printable.narrow (by decide)
  have hsign : Narrow "%" := Text.Printable.narrow (by decide)
  simp only [coreText, Text.narrow_append, Text.narrow_padLeft]
  exact ⟨⟨⟨⟨⟨hnumber, hblank⟩, narrow_sparkline _ _⟩, hblank⟩, hpercent⟩, hsign⟩

/-- No part of the text is wider than its place, up to a number of four digits. -/
theorem displayWidth_coreText_le (hcore : core < 10000) (hpercents : ∀ p ∈ percents, p.IsPercent) :
    displayWidth (coreText rings percents core) ≤ coreCellWidth := by
  have hdigits : core.repr.length ≤ 4 := (Nat.length_repr_le_iff (by decide)).mpr hcore
  have hpercent : (percents.getD core zeroPercent).IsPercent := by
    rw [List.getD_eq_getElem?_getD]
    cases hsome : percents[core]? with
    | none => exact isPercent_zeroPercent
    | some p => exact hpercents p (List.mem_of_getElem? hsome)
  have hfixed := hpercent.length_fixed
  have hnumber : (toString core).length = core.repr.length := rfl
  have hblank : " ".length = 1 := rfl
  have hsign : "%".length = 1 := rfl
  rw [(narrow_coreText rings percents core).displayWidth_eq]
  simp only [coreText, String.length_append, Text.length_padLeft, length_sparkline, hnumber, hblank,
    hsign]
  unfold sparklineLength coreCellWidth
  omega

end CoreText

/-! ## Pieces that fit -/

/-- Pieces that fit are not cut. -/
theorem putPieces_of_le {room : Nat} {pieces : List (Colour × String)}
    (h : displayWidth (wholeText pieces) ≤ room) :
    putPieces room pieces = (inColours pieces, room - displayWidth (wholeText pieces)) := by
  induction pieces generalizing room with
  | nil => rfl
  | cons piece rest ih =>
    rw [wholeText_cons, Text.displayWidth_append] at h ⊢
    have hpiece : displayWidth piece.2 ≤ room := by omega
    have hrest : displayWidth (wholeText rest) ≤ room - displayWidth piece.2 := by omega
    simp only [putPieces, Text.put, Text.clip_of_le hpiece, ih hrest, inColours_cons,
      Nat.sub_sub]

theorem displayWidth_wholeText {pieces : List (Colour × String)} {columns : Nat}
    (h : ∀ piece ∈ pieces, displayWidth piece.2 = columns) :
    displayWidth (wholeText pieces) = columns * pieces.length := by
  induction pieces with
  | nil => rfl
  | cons piece rest ih =>
    rw [wholeText_cons, Text.displayWidth_append, h piece List.mem_cons_self,
      ih fun other hother => h other (List.mem_cons_of_mem _ hother), List.length_cons,
      Nat.mul_add, Nat.mul_one, Nat.add_comm]

/-! ## Rows of processors -/

/-- The processors of one row. -/
def coresIn (count perRow line : Nat) : List Nat :=
  ((List.range count).drop (line * perRow)).take perRow

/-- Slices one after the other are the list up to their end. -/
theorem flatMap_slices {α : Type} (items : List α) (size count : Nat) :
    (List.range count).flatMap (fun i => (items.drop (i * size)).take size) =
      items.take (count * size) := by
  induction count with
  | zero => simp
  | succ count ih =>
    rw [List.range_succ, List.flatMap_append, ih, List.flatMap_singleton, Nat.add_mul, Nat.one_mul,
      List.take_add]

section CoresIn

variable {count perRow : Nat}

theorem length_coresIn (line : Nat) :
    (coresIn count perRow line).length = min perRow (count - line * perRow) := by
  simp [coresIn]

theorem flatMap_coresIn (rows : Nat) :
    (List.range rows).flatMap (coresIn count perRow) =
      List.range (min (rows * perRow) count) := by
  rw [← List.take_range]
  exact flatMap_slices _ _ _

theorem lt_of_mem_coresIn {rows line core : Nat} (hline : line < rows)
    (hcore : core ∈ coresIn count perRow line) : core < count ∧ core < rows * perRow := by
  have hmem : core ∈ (List.range rows).flatMap (coresIn count perRow) :=
    List.mem_flatMap.mpr ⟨line, List.mem_range.mpr hline, hcore⟩
  rw [flatMap_coresIn, List.mem_range] at hmem
  omega

/-- A processor is in the row and in the place of the row that its number tells. -/
theorem getElem?_coresIn {core : Nat} (hcore : core < count) (hperRow : 0 < perRow) :
    (coresIn count perRow (core / perRow))[core % perRow]? = some core := by
  have hplace : core / perRow * perRow + core % perRow = core := Nat.div_add_mod' core perRow
  rw [coresIn, List.getElem?_take_of_lt (Nat.mod_lt _ hperRow), List.getElem?_drop, hplace,
    List.getElem?_range hcore]

end CoresIn

/-! ## Room for the rows -/

/-- What the layout sees to: as many cells in a row as there is room for, and as many rows as the
processors need, up to a bound. -/
structure CoreArea.Holds (area : CoreArea) (width height count : Nat) : Prop where
  perRow : area.cellsPerRow = width / coreCellWidth
  perRow_pos : 0 < area.cellsPerRow
  rows : area.rows = min ((count + area.cellsPerRow - 1) / area.cellsPerRow) maxCoreRows
  below : area.top + area.rows ≤ height

theorem holds_compute {width height count : Nat} {area : CoreArea}
    (h : (Layout.compute width height count).cores = some area) :
    area.Holds width height count := by
  obtain ⟨hgraphs, _⟩ := Layout.cores_compute_eq_some h
  have hstacked := Layout.stacked_compute width height count
  obtain ⟨graphs, hgraphs'⟩ := Option.isSome_iff_exists.mp hgraphs
  have hwide : graphMinWidth ≤ width := (hstacked.graphs graphs hgraphs').2
  unfold graphMinWidth at hwide
  have hbelow : area.top + area.rows ≤ height := by
    have htop := hstacked.cores area h
    have hlist := hstacked.tableTop
    have hend : _ = height := hstacked.height
    have hrows : rowsOf (Layout.compute width height count).cores CoreArea.rows = area.rows := by
      rw [h]
      rfl
    omega
  obtain ⟨top, bottom, hcores⟩ := Layout.cores_compute width height count
  rw [hcores, if_pos hgraphs] at h
  unfold Layout.coresAt at h
  dsimp only at h
  have hperRow : max (width / coreCellWidth) 1 = width / coreCellWidth := by
    unfold coreCellWidth
    omega
  rw [hperRow] at h
  split at h
  · obtain rfl := Option.some.inj h
    exact ⟨rfl, by unfold coreCellWidth; dsimp only; omega, rfl, hbelow⟩
  · exact absurd h (by simp)

section Holds

variable {area : CoreArea} {width height count : Nat} (h : area.Holds width height count)

include h

theorem CoreArea.Holds.columns : coreCellWidth * area.cellsPerRow ≤ width := by
  rw [h.perRow]
  exact Nat.mul_div_le width coreCellWidth

/-- A processor without a place would not have one in the largest number of rows either. -/
theorem CoreArea.Holds.lt_of_lt {core : Nat} (hcore : core < count)
    (hroom : core < maxCoreRows * area.cellsPerRow) : core < area.rows * area.cellsPerRow := by
  have hpos := h.perRow_pos
  have hall : count ≤ (count + area.cellsPerRow - 1) / area.cellsPerRow * area.cellsPerRow := by
    have := Nat.lt_mul_div_succ (count + area.cellsPerRow - 1) hpos
    rw [Nat.mul_add, Nat.mul_one, Nat.mul_comm] at this
    omega
  rw [h.rows]
  rcases Nat.le_total ((count + area.cellsPerRow - 1) / area.cellsPerRow) maxCoreRows with hle | hle
  · rw [Nat.min_eq_left hle]
    omega
  · rw [Nat.min_eq_right hle]
    exact hroom

theorem CoreArea.Holds.lt_tenThousand (hwidth : width < 65536) {core : Nat}
    (hcore : core < area.rows * area.cellsPerRow) : core < 10000 := by
  have hperRow := h.perRow
  have hrows : area.rows ≤ maxCoreRows := by
    rw [h.rows]
    exact Nat.min_le_right _ _
  have hplaces := Nat.mul_le_mul_right area.cellsPerRow hrows
  unfold coreCellWidth at hperRow
  unfold maxCoreRows at hplaces
  omega

end Holds

/-! ## What is drawn -/

section Drawn

variable (rings : List Ring) (percents : List Double)

/-- The cell of a processor: its whole text in the colour of its use, and blanks behind it. -/
def corePiece (core : Nat) : Colour × String :=
  (coreColour percents core, coreText rings percents core ++
    spaces (coreCellWidth - displayWidth (coreText rings percents core)))

/-- A row of cells, and what is left of it. -/
def coreRow (width y : Nat) (cores : List Nat) : List Stroke :=
  .moveTo 0 y :: (inColours (cores.map (corePiece rings percents)) ++
    [.plain, .print (spaces (width - coreCellWidth * cores.length))])

/-- The renderer's slice of the processors. -/
theorem coreCellsFrom_eq (perRow line : Nat) :
    coreCellsFrom rings percents (line * perRow) (min (line * perRow + perRow) rings.length) =
      (coresIn rings.length perRow line).map fun core =>
        (coreColour percents core, Text.fit (coreText rings percents core) coreCellWidth) := by
  have hslice : ((List.range rings.length).drop (line * perRow)).take
      (min (line * perRow + perRow) rings.length - line * perRow) =
        coresIn rings.length perRow line := by
    rw [coresIn, List.take_eq_take_iff, List.length_drop, List.length_range]
    omega
  rw [coreCellsFrom, zipIdx_eq_map_range rings (Ring.empty 1), ← List.map_drop, ← List.map_take,
    hslice, List.map_map]
  rfl

variable {area : CoreArea} {width height : Nat} (h : area.Holds width height rings.length)
  (hwidth : width < 65536) (hpercents : ∀ p ∈ percents, p.IsPercent)

include h hwidth hpercents

theorem displayWidth_corePiece {core : Nat} (hcore : core < area.rows * area.cellsPerRow) :
    Text.fit (coreText rings percents core) coreCellWidth = (corePiece rings percents core).2 ∧
      displayWidth (corePiece rings percents core).2 = coreCellWidth := by
  have hfits := displayWidth_coreText_le rings percents core (h.lt_tenThousand hwidth hcore)
    hpercents
  have hfit := Text.fit_of_le hfits
  exact ⟨hfit, (congrArg displayWidth hfit).symm.trans (Text.displayWidth_fit _ _)⟩

theorem displayWidth_corePieces {line : Nat} (hline : line < area.rows) :
    displayWidth (wholeText ((coresIn rings.length area.cellsPerRow line).map
      (corePiece rings percents))) =
        coreCellWidth * (coresIn rings.length area.cellsPerRow line).length := by
  rw [← List.length_map (corePiece rings percents)]
  refine displayWidth_wholeText fun piece hpiece => ?_
  obtain ⟨core, hcore, rfl⟩ := List.mem_map.mp hpiece
  have hplace := (lt_of_mem_coresIn hline hcore).2
  exact (displayWidth_corePiece rings percents h hwidth hpercents hplace).2

/-- Every row is its cells, none of them cut. -/
theorem coreCells_eq_rows :
    coreCells area width rings percents = (List.range area.rows).flatMap fun line =>
      coreRow rings percents width (area.top + line)
        (coresIn rings.length area.cellsPerRow line) := by
  rw [coreCells, List.flatMap_def, List.flatMap_def]
  refine congrArg List.flatten (List.map_congr_left fun line hmem => ?_)
  have hline := List.mem_range.mp hmem
  have hpieces : coreCellsFrom rings percents (line * area.cellsPerRow)
      (min (line * area.cellsPerRow + area.cellsPerRow) rings.length) =
        (coresIn rings.length area.cellsPerRow line).map (corePiece rings percents) := by
    rw [coreCellsFrom_eq]
    refine List.map_congr_left fun core hcore => ?_
    have hplace := (lt_of_mem_coresIn hline hcore).2
    rw [(displayWidth_corePiece rings percents h hwidth hpercents hplace).1]
    rfl
  have hcolumns := displayWidth_corePieces rings percents h hwidth hpercents hline
  have hroom : coreCellWidth * (coresIn rings.length area.cellsPerRow line).length ≤ width := by
    refine Nat.le_trans (Nat.mul_le_mul_left _ ?_) h.columns
    rw [length_coresIn]
    exact Nat.min_le_left _ _
  dsimp only
  rw [hpieces, putPieces_of_le (hcolumns.trans_le hroom), hcolumns]
  rfl

end Drawn

/-! ## What is seen -/

/-- The cells of a text of narrow characters without a ground. -/
def pieceCells (piece : Colour × String) : List Cell :=
  piece.2.toList.map fun c => ⟨[c], piece.1.palette?, none⟩

theorem rowCells_of_narrow {pieces : List (Colour × String)}
    (h : ∀ piece ∈ pieces, Narrow piece.2) : rowCells none pieces = pieces.flatMap pieceCells := by
  have hall : ∀ g ∈ inkedOn none pieces, Text.charWidth g.glyph = 1 := by
    intro g hg
    obtain ⟨piece, hpiece, hchar⟩ := List.mem_flatMap.mp hg
    obtain ⟨c, hc, rfl⟩ := List.mem_map.mp hchar
    exact h piece hpiece c hc
  rw [rowCells, laid_of_narrow hall, inkedOn, List.map_flatMap]
  simp only [List.map_map]
  rfl

theorem ground_obeyAll_glyphs (t : Terminal) (text : List Char) :
    (t.obeyAll (text.map Sign.glyph)).ground = t.ground := by
  induction text generalizing t with
  | nil => rfl
  | cons c rest ih => exact ih _

/-- Narrow pieces, and blanks in no colour, on a terminal that has no ground set. -/
theorem leaves_pieces {y : Nat} (hy : y < 65536) {pieces : List (Colour × String)}
    (hnarrow : ∀ piece ∈ pieces, Narrow piece.2) (blanks : Nat) :
    Leaves (fun t => t.ground = none)
      (.moveTo 0 y :: (inColours pieces ++ [.plain, .print (spaces blanks)]))
      (rowAt y 0 (pieces.flatMap pieceCells ++ pieceCells (.unset, spaces blanks))) := by
  have hspaces : signsOf [.print (spaces blanks)] = (spaces blanks).toList.map Sign.glyph := by
    simp [signsOf, Stroke.signs]
  have hblanks := inkedBy_glyphs none none (spaces blanks).toList []
  rw [List.append_nil, inkedBy_nil, List.append_nil] at hblanks
  have hall : ∀ piece ∈ pieces ++ [(.unset, spaces blanks)], Narrow piece.2 := by
    intro piece hpiece
    rcases List.mem_append.mp hpiece with hpiece | hblank
    · exact hnarrow piece hpiece
    · rw [List.mem_singleton.mp hblank]
      exact Text.narrow_spaces blanks
  have hcells := rowCells_of_narrow hall
  rw [List.flatMap_append, List.flatMap_singleton] at hcells
  obtain ⟨_, hruns⟩ := runs_inColours pieces (Runs.nil.print (spaces blanks)).plain
  rw [← hcells]
  refine leaves_line hruns.noMoves (by decide) hy ?_ ?_ ?_
  · intro t ht
    rw [inkedBy_inColours, ht, hspaces, hblanks, inkedOn, inkedOn, List.flatMap_append,
      List.flatMap_singleton]
    rfl
  · intro g hg
    obtain ⟨piece, hpiece, hchar⟩ := List.mem_flatMap.mp (List.mem_of_mem_head? hg)
    obtain ⟨c, hc, rfl⟩ := List.mem_map.mp hchar
    rw [hall piece hpiece c hc]
    exact Nat.one_ne_zero
  · intro t _
    have hsigns : signsOf (.moveTo 0 y :: (inColours pieces ++ [.plain, .print (spaces blanks)])) =
        signsOf (.moveTo 0 y :: inColours pieces) ++
          .plain :: (spaces blanks).toList.map Sign.glyph := by
      rw [← hspaces]
      simp [signsOf, Stroke.signs]
    rw [hsigns, Terminal.obeyAll_append, Terminal.obeyAll_cons, ground_obeyAll_glyphs]
    rfl

section Slices

variable {α : Type} {size : Nat} {draw : α → List Cell} {items : List α}
  (h : ∀ item ∈ items, (draw item).length = size)

include h

theorem length_flatMap_of_length : (items.flatMap draw).length = size * items.length := by
  induction items with
  | nil => rfl
  | cons first rest ih =>
    rw [List.flatMap_cons, List.length_append, h first List.mem_cons_self,
      ih fun other hother => h other (List.mem_cons_of_mem first hother), List.length_cons,
      Nat.mul_add, Nat.mul_one, Nat.add_comm]

/-- A cell among cells of one size. -/
theorem slice_flatMap {place : Nat} {item : α} (hitem : items[place]? = some item)
    (behind : List Cell) :
    ((items.flatMap draw ++ behind).drop (size * place)).take size = draw item := by
  induction items generalizing place with
  | nil => exact absurd hitem (by simp)
  | cons first rest ih =>
    have hfirst := h first List.mem_cons_self
    cases place with
    | zero =>
      obtain rfl : first = item := by simpa using hitem
      rw [Nat.mul_zero, List.drop_zero, List.flatMap_cons, List.append_assoc, ← hfirst,
        List.take_left]
    | succ place =>
      have hskip : size * (place + 1) = (draw first).length + size * place := by
        rw [hfirst, Nat.mul_add, Nat.mul_one, Nat.add_comm]
      rw [hskip, List.flatMap_cons, List.append_assoc, ← List.drop_drop, List.drop_left]
      exact ih (fun other hother => h other (List.mem_cons_of_mem first hother))
        (by simpa using hitem)

end Slices

/-- The screen shows each processor that has a place in that place, and nothing behind the last
one of a row. -/
structure CoreArea.Shown (area : CoreArea) (screen : Terminal) (width : Nat) (rings : List Ring)
    (percents : List Double) : Prop where
  cell : ∀ core < rings.length, core < area.rows * area.cellsPerRow →
    screen.stretch (area.top + core / area.cellsPerRow)
        (coreCellWidth * (core % area.cellsPerRow)) coreCellWidth =
      pieceCells (corePiece rings percents core)
  blank : ∀ line < area.rows, ∀ column,
    coreCellWidth * (coresIn rings.length area.cellsPerRow line).length ≤ column →
    column < width → screen.cells (area.top + line) column = ⟨[' '], none, none⟩

section Shown

variable {rings : List Ring} {percents : List Double} {area : CoreArea} {width height : Nat}
  (h : area.Holds width height rings.length) (hwidth : width < 65536)
  (hpercents : ∀ p ∈ percents, p.IsPercent)

/-- The cells of a row, and blanks up to the width of the screen. -/
def coreRowCells (rings : List Ring) (percents : List Double) (width : Nat) (cores : List Nat) :
    List Cell :=
  cores.flatMap (fun core => pieceCells (corePiece rings percents core)) ++
    pieceCells (.unset, spaces (width - coreCellWidth * cores.length))

theorem narrow_corePiece (core : Nat) : Narrow (corePiece rings percents core).2 :=
  Text.narrow_append.mpr ⟨narrow_coreText rings percents core, Text.narrow_spaces _⟩

include h hwidth hpercents

theorem length_pieceCells_corePiece {line : Nat} (hline : line < area.rows) :
    ∀ core ∈ coresIn rings.length area.cellsPerRow line,
      (pieceCells (corePiece rings percents core)).length = coreCellWidth := by
  intro core hcore
  rw [pieceCells, List.length_map, String.length_toList, ← (narrow_corePiece core).displayWidth_eq]
  exact (displayWidth_corePiece rings percents h hwidth hpercents
    (lt_of_mem_coresIn hline hcore).2).2

variable (hheight : height < 65536)

include hheight

theorem leaves_coreCells :
    Leaves (fun t => t.ground = none) (coreCells area width rings percents)
      (rowsFrom area.top 0 area.rows fun line =>
        coreRowCells rings percents width (coresIn rings.length area.cellsPerRow line)) := by
  have hbelow := h.below
  rw [coreCells_eq_rows rings percents h hwidth hpercents]
  refine leaves_range fun line hline => ?_
  rw [coreRowCells, ← List.flatMap_map]
  refine leaves_pieces (by omega) (fun piece hpiece => ?_) _
  obtain ⟨core, _, rfl⟩ := List.mem_map.mp hpiece
  exact narrow_corePiece core

theorem shown_coreCells {t : Terminal} (ht : t.ground = none) :
    area.Shown (t.obeyAll (signsOf (coreCells area width rings percents))) width rings
      percents := by
  have hleaves := leaves_coreCells h hwidth hpercents hheight
  refine ⟨fun core hcore hplace => ?_, fun line hline column hfrom hto => ?_⟩
  · have hline : core / area.cellsPerRow < area.rows :=
      (Nat.div_lt_iff_lt_mul h.perRow_pos).mpr hplace
    have hcells := length_pieceCells_corePiece h hwidth hpercents hline
    have hitem := getElem?_coresIn hcore h.perRow_pos
    have hrow := hleaves.stretch ht hline
    generalize coresIn rings.length area.cellsPerRow (core / area.cellsPerRow) = cores at *
    have hroom : coreCellWidth * (core % area.cellsPerRow) + coreCellWidth ≤
        (coreRowCells rings percents width cores).length := by
      have hplace : core % area.cellsPerRow < cores.length :=
        (List.getElem?_eq_some_iff.mp hitem).1
      have hcolumns := Nat.mul_le_mul_left coreCellWidth hplace
      rw [coreRowCells, List.length_append, length_flatMap_of_length hcells]
      exact Nat.le_trans hcolumns (Nat.le_add_right _ _)
    have hpart := Terminal.stretch_add (t.obeyAll (signsOf (coreCells area width rings percents)))
      (area.top + core / area.cellsPerRow) 0 hroom
    rw [hrow, Nat.zero_add] at hpart
    exact hpart.trans (slice_flatMap hcells hitem _)
  · have hcells := length_flatMap_of_length (length_pieceCells_corePiece h hwidth hpercents hline)
    have hplace : area.top + line - area.top = line := by omega
    rw [hleaves.cells t ht, rowsFrom_inside (by omega), hplace, Nat.sub_zero, coreRowCells,
      List.getElem?_append_right (by rw [hcells]; exact hfrom), hcells]
    have hblank : column - coreCellWidth * (coresIn rings.length area.cellsPerRow line).length <
        width - coreCellWidth * (coresIn rings.length area.cellsPerRow line).length := by omega
    simp [pieceCells, spaces, hblank]
    rfl

end Shown

/-- The cells are a part of the frame. -/
theorem coreCells_infix_frame (s : Session) {layout : Layout} {area : CoreArea}
    (h : layout.cores = some area) (clock : String) :
    coreCells area layout.width s.history.cores s.metrics.cores <:+: frame s layout clock := by
  unfold frame
  rw [h]
  dsimp only [whenPlaced]
  rw [List.append_assoc, List.append_assoc, List.append_assoc, List.append_assoc,
    List.append_assoc, List.append_assoc]
  exact List.infix_append' _ _ _

/-! ## The laws -/

/-- On a screen of any size that shows processors, for any number of them, when their use is given
in percentages. The rows together draw the first processors one after the other, each of them once
and all that two rows have room for. A processor stands in the row and in the columns that its
number tells, with its number, its newest samples and its use in full, in the colour of its own
use. Behind the last processor of a row there are blanks up to the end of the screen. -/
theorem each_processor_has_a_cell_of_its_own {width height : Nat} (hwidth : width < 65536)
    (hheight : height < 65536) (s : Session) {area : CoreArea}
    (hcores : (Layout.compute width height s.history.cores.length).cores = some area)
    (hpercents : ∀ p ∈ s.metrics.cores, p.IsPercent) (clock : String) :
    let rings := s.history.cores
    let percents := s.metrics.cores
    let strokes := coreCells area width rings percents
    let places := area.rows * area.cellsPerRow
    let inRow := coresIn rings.length area.cellsPerRow
    strokes <:+: frame s (Layout.compute width height rings.length) clock ∧
      strokes = (List.range area.rows).flatMap (fun line =>
        coreRow rings percents width (area.top + line) (inRow line)) ∧
      (List.range area.rows).flatMap inRow = List.range (min places rings.length) ∧
      (∀ core < rings.length, core < maxCoreRows * (width / coreCellWidth) → core < places) ∧
      (∀ core < places, displayWidth (coreText rings percents core) ≤ coreCellWidth) ∧
      (∀ samples, displayWidth (sparkline samples sparklineLength) = 6) ∧
      ∀ t : Terminal, t.ground = none →
        area.Shown (t.obeyAll (signsOf strokes)) width rings percents := by
  intro rings percents strokes places inRow
  have h := holds_compute hcores
  refine ⟨coreCells_infix_frame s hcores clock, coreCells_eq_rows rings percents h hwidth hpercents,
    flatMap_coresIn area.rows, ?_, ?_, ?_, ?_⟩
  · intro core hcore hroom
    exact h.lt_of_lt hcore (h.perRow ▸ hroom)
  · intro core hplace
    exact displayWidth_coreText_le rings percents core (h.lt_tenThousand hwidth hplace) hpercents
  · intro samples
    rw [(narrow_sparkline samples sparklineLength).displayWidth_eq, length_sparkline]
    rfl
  · intro t ht
    exact shown_coreCells h hwidth hpercents hheight ht

/-- A session with three processors. -/
def threeProcessors : Session :=
  { Session.default with
    history := ⟨Ring.empty 1, Ring.empty 1, [Ring.empty 1, Ring.empty 1, (Ring.empty 2).push 50]⟩
    metrics := { Metrics.none with cores := [0, 40, 100] } }

/-- Two rows of two cells for three processors: the third one begins the second row, and the rest
of that row is blank. -/
theorem the_third_of_three_begins_a_row :
    let cores := threeProcessors.history.cores
    let area : CoreArea := ⟨14, 2, 2⟩
    40 < 65536 ∧ 30 < 65536 ∧ (Layout.compute 40 30 cores.length).cores = some area ∧
      (∀ p ∈ threeProcessors.metrics.cores, p.IsPercent) ∧
      ∀ t : Terminal, t.ground = none →
        let screen := t.obeyAll (signsOf (coreCells area 40 cores threeProcessors.metrics.cores))
        screen.stretch 15 0 16 = pieceCells (.red, "  2      ▄ 100% ") ∧
          screen.cells 15 16 = ⟨[' '], none, none⟩ := by
  intro cores area
  have hcores : (Layout.compute 40 30 cores.length).cores = some area := by decide
  have hpercents : ∀ p ∈ threeProcessors.metrics.cores, p.IsPercent := by
    intro p hp
    have hall : ∀ p ∈ threeProcessors.metrics.cores,
        zeroPercent.le p = true ∧ p.le hundred = true := by decide +kernel
    exact hall p hp
  obtain ⟨_, _, _, _, _, _, hshown⟩ := each_processor_has_a_cell_of_its_own
    (by decide : 40 < 65536) (by decide : 30 < 65536) threeProcessors hcores hpercents ""
  refine ⟨by decide, by decide, hcores, hpercents, fun t ht => ?_⟩
  intro screen
  have hpiece : corePiece cores threeProcessors.metrics.cores 2 = (.red, "  2      ▄ 100% ") := by
    decide +kernel
  have hscreen : area.Shown screen 40 cores threeProcessors.metrics.cores := hshown t ht
  have hcell := hscreen.cell 2 (by decide) (by decide)
  have hblank := hscreen.blank 1 (by decide) 16 (by decide) (by decide)
  have hrow : area.top + 2 / area.cellsPerRow = 15 := by simp [area]
  have hcolumn : coreCellWidth * (2 % area.cellsPerRow) = 0 := by simp [area]
  have hnext : area.top + 1 = 15 := by simp [area]
  rw [hpiece, hrow, hcolumn] at hcell
  rw [hnext] at hblank
  exact ⟨hcell, hblank⟩

end Screen

end ProcessMonitor
