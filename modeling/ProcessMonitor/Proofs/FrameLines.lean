-- A frame is made of lines: a move of the cursor, and colours and text behind it. A
-- line takes as many columns as its text, and every part of a frame is made of lines
-- that fill the columns of the part.
import ProcessMonitor.Proofs.Terminal
import ProcessMonitor.Screen.Frame

namespace ProcessMonitor.Screen

/-! ## Columns of signs -/

def Sign.columns : Sign → Nat
  | .glyph c => Text.charWidth c
  | _ => 0

/-- The columns that all glyphs among the signs take. -/
def columnsOf : List Sign → Nat
  | [] => 0
  | sign :: rest => sign.columns + columnsOf rest

theorem columnsOf_append (first second : List Sign) :
    columnsOf (first ++ second) = columnsOf first + columnsOf second := by
  induction first with
  | nil => exact (Nat.zero_add _).symm
  | cons sign rest ih => rw [List.cons_append, columnsOf, columnsOf, ih, Nat.add_assoc]

theorem columnsOf_glyphs (text : List Char) :
    columnsOf (text.map Sign.glyph) = Text.width text := by
  induction text with
  | nil => rfl
  | cons c rest ih => rw [List.map_cons, columnsOf, ih, Text.width, Sign.columns]

/-- The cursor moves by writing alone. -/
def NoMoves (signs : List Sign) : Prop := ∀ row column, .moveTo row column ∉ signs

theorem NoMoves.tail {sign : Sign} {rest : List Sign} (h : NoMoves (sign :: rest)) :
    NoMoves rest := fun row column hmem => h row column (List.mem_cons_of_mem sign hmem)

theorem place_after_glyph {s : Settled} {row first : Nat} (h : s.place = some (row, first))
    (c : Char) : (s.after (.glyph c)).place = some (row, first + Text.charWidth c) := by
  simp [Settled.after, h]

/-- Signs that do not move the cursor write side by side from where it stands. -/
theorem written_row {signs : List Sign} (h : NoMoves signs) {s : Settled} {row first : Nat}
    (hplace : s.place = some (row, first)) (hcoloured : s.Coloured) :
    ∀ w ∈ written s signs, w.Within first row (columnsOf signs) 1 := by
  induction signs generalizing s first with
  | nil => exact fun w hw => absurd hw List.not_mem_nil
  | cons sign rest ih =>
    have hnext := hcoloured.after sign
    cases sign with
    | moveTo toRow toColumn => exact absurd List.mem_cons_self (h toRow toColumn)
    | glyph c =>
      simp only [columnsOf, Sign.columns]
      intro w hw
      rcases List.mem_cons.mp hw with rfl | hw
      · exact ⟨row, first, hplace, by omega, by dsimp only; omega, hcoloured⟩
      · obtain ⟨_, column, hcolumn, hrow, hle, hw⟩ :=
          ih h.tail (place_after_glyph hplace c) hnext w hw
        exact ⟨_, column, hcolumn, hrow, by omega, hw⟩
    | ink | ground | plain =>
      simp only [columnsOf, Sign.columns, Nat.zero_add]
      exact ih h.tail hplace hnext

/-- They leave no column out. -/
theorem covers_row {signs : List Sign} (h : NoMoves signs) {s : Settled} {row first : Nat}
    (hplace : s.place = some (row, first)) {column : Nat} (hfirst : first ≤ column)
    (hlast : column < first + columnsOf signs) : ∃ w ∈ written s signs, w.Covers row column := by
  induction signs generalizing s first with
  | nil => exact absurd hlast (Nat.not_lt.mpr hfirst)
  | cons sign rest ih =>
    cases sign with
    | moveTo toRow toColumn => exact absurd List.mem_cons_self (h toRow toColumn)
    | glyph c =>
      simp only [columnsOf, Sign.columns] at hlast
      by_cases hhere : column < first + Text.charWidth c
      · exact ⟨⟨c, s⟩, List.mem_cons_self, first, hplace, hfirst, hhere⟩
      · obtain ⟨w, hw, hcovers⟩ := ih h.tail (place_after_glyph hplace c) (by omega) (by omega)
        exact ⟨w, List.mem_cons_of_mem _ hw, hcovers⟩
    | ink | ground | plain =>
      simp only [columnsOf, Sign.columns, Nat.zero_add] at hlast
      exact ih h.tail hplace hfirst hlast

/-! ## Signs of strokes -/

@[simp] theorem signsOf_cons (stroke : Stroke) (rest : List Stroke) :
    signsOf (stroke :: rest) = stroke.signs ++ signsOf rest := rfl

@[simp] theorem signsOf_append (first second : List Stroke) :
    signsOf (first ++ second) = signsOf first ++ signsOf second := List.flatMap_append

/-! ## Lines -/

/-- The strokes write `count` columns and move the cursor in no other way. -/
inductive Runs : Nat → List Stroke → Prop
  | nil : Runs 0 []
  | foreground (colour : Colour) {count : Nat} {rest : List Stroke} :
    Runs count rest → Runs count (.foreground colour :: rest)
  | background (colour : Colour) {count : Nat} {rest : List Stroke} :
    Runs count rest → Runs count (.background colour :: rest)
  | plain {count : Nat} {rest : List Stroke} : Runs count rest → Runs count (.plain :: rest)
  | print (text : String) {count : Nat} {rest : List Stroke} :
    Runs count rest → Runs (Text.displayWidth text + count) (.print text :: rest)

section Runs

variable {count more : Nat} {first second : List Stroke}

theorem Runs.append (hfirst : Runs count first) (hsecond : Runs more second) :
    Runs (count + more) (first ++ second) := by
  induction hfirst with
  | nil => rwa [Nat.zero_add]
  | foreground colour _ ih => exact ih.foreground colour
  | background colour _ ih => exact ih.background colour
  | plain _ ih => exact ih.plain
  | print text _ ih =>
    rw [Nat.add_assoc]
    exact ih.print text

theorem Runs.noMoves (h : Runs count first) : NoMoves (signsOf first) := by
  induction h with
  | nil => exact fun _ _ hmem => absurd hmem List.not_mem_nil
  | foreground colour _ ih => simpa [NoMoves, Stroke.signs] using ih
  | background colour _ ih => simpa [NoMoves, Stroke.signs] using ih
  | plain _ ih => simpa [NoMoves, Stroke.signs] using ih
  | print text _ ih => simpa [NoMoves, Stroke.signs] using ih

theorem Runs.columns (h : Runs count first) : columnsOf (signsOf first) = count := by
  induction h with
  | nil => rfl
  | foreground colour _ ih => exact (Nat.zero_add _).trans ih
  | background colour _ ih => exact (Nat.zero_add _).trans ih
  | plain _ ih => exact (Nat.zero_add _).trans ih
  | print text _ ih =>
    rw [signsOf_cons, columnsOf_append, ih, Stroke.signs, columnsOf_glyphs, Text.displayWidth]

end Runs

/-- The strokes write `count` columns of row `y`, from column `x` on. -/
def IsLine (x y count : Nat) (strokes : List Stroke) : Prop :=
  ∃ rest, strokes = .moveTo x y :: rest ∧ Runs count rest

/-! ## Blocks -/

/-- Begun in settled colours, the strokes write in a block of the screen alone. -/
def Inside (x y columns rows : Nat) (strokes : List Stroke) : Prop :=
  ∀ s : Settled, s.Coloured → ∀ w ∈ written s (signsOf strokes), w.Within x y columns rows

/-- Begun in settled colours, the strokes write in a block of the screen alone, and
write every cell of it. -/
structure IsBlock (x y columns rows : Nat) (strokes : List Stroke) : Prop where
  inside : Inside x y columns rows strokes
  full : ∀ s : Settled, s.Coloured → ∀ row column, y ≤ row → row < y + rows → x ≤ column →
    column < x + columns → ∃ w ∈ written s (signsOf strokes), w.Covers row column

section Inside

variable {x y columns rows : Nat} {first second : List Stroke}

theorem inside_nil : Inside x y columns rows [] := fun _ _ _ hw => absurd hw List.not_mem_nil

theorem Inside.append (hfirst : Inside x y columns rows first)
    (hsecond : Inside x y columns rows second) : Inside x y columns rows (first ++ second) := by
  intro s hs w hw
  rw [signsOf_append, written_append] at hw
  rcases List.mem_append.mp hw with hw | hw
  · exact hfirst s hs w hw
  · exact hsecond _ (hs.afterAll _) w hw

theorem Inside.flatMap {α : Type} {parts : List α} {draw : α → List Stroke}
    (h : ∀ part ∈ parts, Inside x y columns rows (draw part)) :
    Inside x y columns rows (parts.flatMap draw) := by
  induction parts with
  | nil => exact inside_nil
  | cons part rest ih =>
    exact (h part List.mem_cons_self).append
      (ih fun other hother => h other (List.mem_cons_of_mem part hother))

theorem Inside.mono {x' y' columns' rows' : Nat} (h : Inside x y columns rows first)
    (hx : x' ≤ x ∧ x + columns ≤ x' + columns') (hy : y' ≤ y ∧ y + rows ≤ y' + rows') :
    Inside x' y' columns' rows' first := by
  intro s hs w hw
  obtain ⟨row, column, hplace, hrow, hcolumn, hcoloured⟩ := h s hs w hw
  exact ⟨row, column, hplace, by omega, by omega, hcoloured⟩

end Inside

section Blocks

variable {x y columns rows : Nat} {first second : List Stroke}

/-- What either of two drawings covers, both in a row cover. -/
theorem covers_append {s : Settled} {row column : Nat}
    (h : (∃ w ∈ written s (signsOf first), w.Covers row column) ∨
      ∃ w ∈ written (s.afterAll (signsOf first)) (signsOf second), w.Covers row column) :
    ∃ w ∈ written s (signsOf (first ++ second)), w.Covers row column := by
  rw [signsOf_append, written_append]
  rcases h with ⟨w, hw, hcovers⟩ | ⟨w, hw, hcovers⟩
  · exact ⟨w, List.mem_append_left _ hw, hcovers⟩
  · exact ⟨w, List.mem_append_right _ hw, hcovers⟩

theorem block_nil : IsBlock x y columns 0 [] :=
  ⟨inside_nil, fun _ _ _ _ hfirst hlast => absurd hlast (Nat.not_lt.mpr hfirst)⟩

/-- A line is a block of one row. -/
theorem IsLine.block {strokes : List Stroke} (h : IsLine x y columns strokes) (hx : x < 65536)
    (hy : y < 65536) : IsBlock x y columns 1 strokes := by
  obtain ⟨rest, rfl, hrest⟩ := h
  have hcolumns := hrest.columns
  have hplace (s : Settled) : (s.after (.moveTo (y % 65536) (x % 65536))).place = some (y, x) := by
    rw [Nat.mod_eq_of_lt hx, Nat.mod_eq_of_lt hy]
    rfl
  refine ⟨?_, ?_⟩
  · intro s hs w hw
    rw [← hcolumns]
    exact written_row hrest.noMoves (hplace s) (hs.after _) w hw
  · intro s _ row column hfirst hlast hleft hright
    obtain rfl : row = y := by omega
    exact covers_row hrest.noMoves (hplace s) hleft (by omega)

/-- One block above another of the same width. -/
theorem IsBlock.above {more : Nat} (upper : IsBlock x y columns rows first)
    (lower : IsBlock x (y + rows) columns more second) :
    IsBlock x y columns (rows + more) (first ++ second) where
  inside := (upper.inside.mono ⟨by omega, by omega⟩ ⟨by omega, by omega⟩).append
    (lower.inside.mono ⟨by omega, by omega⟩ ⟨by omega, by omega⟩)
  full := by
    intro s hs row column hfirst hlast hleft hright
    by_cases hrow : row < y + rows
    · exact covers_append (Or.inl (upper.full s hs row column hfirst hrow hleft hright))
    · exact covers_append (Or.inr (lower.full _ (hs.afterAll _) row column (by omega) (by omega)
        hleft hright))

/-- One block to the right of another of the same height. -/
theorem IsBlock.beside {more : Nat} (left : IsBlock x y columns rows first)
    (right : IsBlock (x + columns) y more rows second) :
    IsBlock x y (columns + more) rows (first ++ second) where
  inside := (left.inside.mono ⟨by omega, by omega⟩ ⟨by omega, by omega⟩).append
    (right.inside.mono ⟨by omega, by omega⟩ ⟨by omega, by omega⟩)
  full := by
    intro s hs row column hfirst hlast hleft hright
    by_cases hcolumn : column < x + columns
    · exact covers_append (Or.inl (left.full s hs row column hfirst hlast hleft hcolumn))
    · exact covers_append (Or.inr (right.full _ (hs.afterAll _) row column hfirst hlast (by omega)
        (by omega)))

/-- What is drawn inside a block afterwards leaves it full. -/
theorem IsBlock.over (h : IsBlock x y columns rows first)
    (hsecond : Inside x y columns rows second) : IsBlock x y columns rows (first ++ second) where
  inside := h.inside.append hsecond
  full := by
    intro s hs row column hfirst hlast hleft hright
    exact covers_append (Or.inl (h.full s hs row column hfirst hlast hleft hright))

/-- Lines one below the other. -/
theorem block_lines {lines : List (List Stroke)}
    (h : ∀ (i : Nat) (line : List Stroke), lines[i]? = some line → IsLine x (y + i) columns line)
    (hx : x < 65536) (hy : y + lines.length ≤ 65536) :
    IsBlock x y columns lines.length lines.flatten := by
  induction lines generalizing y with
  | nil => exact block_nil
  | cons line rest ih =>
    rw [List.length_cons] at hy ⊢
    rw [Nat.add_comm rest.length 1, List.flatten_cons]
    refine ((h 0 line rfl).block hx (by omega)).above (ih ?_ (by omega))
    intro i other hother
    rw [Nat.add_assoc, Nat.add_comm 1 i]
    exact h (i + 1) other hother

/-- A line for each number below `rows`. -/
theorem block_range {draw : Nat → List Stroke}
    (h : ∀ line < rows, IsLine x (y + line) columns (draw line)) (hx : x < 65536)
    (hy : y + rows ≤ 65536) : IsBlock x y columns rows ((List.range rows).flatMap draw) := by
  have hlength : ((List.range rows).map draw).length = rows := by simp
  have hblock : IsBlock x y columns ((List.range rows).map draw).length
      ((List.range rows).map draw).flatten := by
    refine block_lines ?_ hx (by omega)
    intro i line hline
    rw [List.getElem?_map] at hline
    obtain ⟨number, hnumber, rfl⟩ := Option.map_eq_some_iff.mp hline
    obtain ⟨hi, rfl⟩ := List.getElem?_eq_some_iff.mp hnumber
    rw [List.getElem_range]
    exact h i (by simpa using hi)
  rwa [hlength, ← List.flatMap_def] at hblock

end Blocks

end ProcessMonitor.Screen
