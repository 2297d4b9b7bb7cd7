-- A terminal as a grid of cells, and what signs settle of it. A sign that was read
-- with the place of the cursor and both colours settled does the same on every
-- terminal, so cells that such signs write are alike on all of them afterwards.
import ProcessMonitor.Proofs.FrameSigns

namespace ProcessMonitor.Screen

/-! ## What signs settle -/

/-- What signs have settled so far: the place of the cursor, as its row and its
column, and both colours. -/
structure Settled where
  place : Option (Nat × Nat)
  ink : Option Tint
  ground : Option Tint
deriving DecidableEq, Repr

namespace Settled

/-- Before the first sign. -/
def nothing : Settled := ⟨none, none, none⟩

def after (s : Settled) : Sign → Settled
  | .moveTo row column => { s with place := some (row, column) }
  | .ink tint => { s with ink := some tint }
  | .ground tint => { s with ground := some tint }
  | .plain => { s with ink := some none, ground := some none }
  | .glyph c =>
    { s with place := s.place.map fun (row, column) => (row, column + Text.charWidth c) }

def afterAll (s : Settled) (signs : List Sign) : Settled := signs.foldl after s

/-- Both colours are settled. -/
def Coloured (s : Settled) : Prop := s.ink.isSome ∧ s.ground.isSome

theorem Coloured.after {s : Settled} (h : s.Coloured) (sign : Sign) : (s.after sign).Coloured := by
  obtain ⟨hink, hground⟩ := h
  cases sign <;> exact ⟨by first | exact hink | rfl, by first | exact hground | rfl⟩

theorem Coloured.afterAll {s : Settled} (h : s.Coloured) (signs : List Sign) :
    (s.afterAll signs).Coloured := by
  induction signs generalizing s with
  | nil => exact h
  | cons sign rest ih => exact ih (h.after sign)

end Settled

/-- A glyph with what is settled when it is written. -/
structure Written where
  glyph : Char
  settled : Settled
deriving DecidableEq, Repr

/-- The glyphs among signs. -/
def written (s : Settled) : List Sign → List Written
  | [] => []
  | .glyph c :: rest => ⟨c, s⟩ :: written (s.after (.glyph c)) rest
  | sign :: rest => written (s.after sign) rest

theorem written_append (s : Settled) (first second : List Sign) :
    written s (first ++ second) = written s first ++ written (s.afterAll first) second := by
  induction first generalizing s with
  | nil => rfl
  | cons sign rest ih =>
    cases sign <;> simp [written, ih, Settled.afterAll]

/-- Which glyphs are written does not depend on what is settled. -/
theorem glyphs_written (s other : Settled) (signs : List Sign) :
    (written s signs).map (·.glyph) = (written other signs).map (·.glyph) := by
  induction signs generalizing s other with
  | nil => rfl
  | cons sign rest ih =>
    cases sign with
    | glyph c =>
      simp only [written, List.map_cons, ih (s.after (.glyph c)) (other.after (.glyph c))]
    | moveTo | ink | ground | plain => exact ih _ _

namespace Written

/-- The glyph stands in the block of `columns` columns and `rows` rows whose first cell
is in column `x` of row `y`, and its colours were settled before it. -/
def Within (x y columns rows : Nat) (w : Written) : Prop :=
  ∃ row column, w.settled.place = some (row, column) ∧ (y ≤ row ∧ row < y + rows) ∧
    (x ≤ column ∧ column + Text.charWidth w.glyph ≤ x + columns) ∧ w.settled.Coloured

/-- The glyph takes this cell. -/
def Covers (w : Written) (row column : Nat) : Prop :=
  ∃ first, w.settled.place = some (row, first) ∧ first ≤ column ∧
    column < first + Text.charWidth w.glyph

end Written

/-! ## Terminals -/

structure Cell where
  /-- A glyph and the marks on it. The cells behind the first one of a wide glyph have
  no text of their own. -/
  text : List Char
  ink : Tint
  ground : Tint

structure Terminal where
  cells : Nat → Nat → Cell
  row : Nat
  column : Nat
  ink : Tint
  ground : Tint

namespace Terminal

/-- A glyph goes into the cells from the cursor on, and the cursor behind it. A glyph
without a column of its own goes onto the cell in front of the cursor. -/
def write (t : Terminal) (c : Char) : Terminal :=
  { t with
    column := t.column + Text.charWidth c
    cells := fun row column =>
      if row = t.row ∧ t.column ≤ column ∧ column < t.column + Text.charWidth c then
        ⟨if column = t.column then [c] else [], t.ink, t.ground⟩
      else if Text.charWidth c = 0 ∧ row = t.row ∧ column + 1 = t.column then
        { t.cells row column with text := (t.cells row column).text ++ [c] }
      else t.cells row column }

def obey (t : Terminal) : Sign → Terminal
  | .moveTo row column => { t with row, column }
  | .ink tint => { t with ink := tint }
  | .ground tint => { t with ground := tint }
  | .plain => { t with ink := none, ground := none }
  | .glyph c => t.write c

def obeyAll (t : Terminal) (signs : List Sign) : Terminal := signs.foldl obey t

@[simp] theorem obeyAll_nil (t : Terminal) : t.obeyAll [] = t := rfl

@[simp] theorem obeyAll_cons (t : Terminal) (sign : Sign) (rest : List Sign) :
    t.obeyAll (sign :: rest) = (t.obey sign).obeyAll rest := rfl

@[simp] theorem obeyAll_append (t : Terminal) (first second : List Sign) :
    t.obeyAll (first ++ second) = (t.obeyAll first).obeyAll second := List.foldl_append

/-- The terminal is as the signs before have settled it. -/
structure Follows (t : Terminal) (s : Settled) : Prop where
  place : ∀ row column, s.place = some (row, column) → t.row = row ∧ t.column = column
  ink : ∀ tint, s.ink = some tint → t.ink = tint
  ground : ∀ tint, s.ground = some tint → t.ground = tint

theorem follows_nothing (t : Terminal) : t.Follows Settled.nothing where
  place _ _ h := absurd h (by simp [Settled.nothing])
  ink _ h := absurd h (by simp [Settled.nothing])
  ground _ h := absurd h (by simp [Settled.nothing])

theorem Follows.obey {t : Terminal} {s : Settled} (h : t.Follows s) (sign : Sign) :
    (t.obey sign).Follows (s.after sign) := by
  obtain ⟨hplace, hink, hground⟩ := h
  cases sign with
  | moveTo row column => exact ⟨by simp [Settled.after, Terminal.obey], hink, hground⟩
  | ink tint => exact ⟨hplace, by simp [Settled.after, Terminal.obey], hground⟩
  | ground tint => exact ⟨hplace, hink, by simp [Settled.after, Terminal.obey]⟩
  | plain =>
    exact ⟨hplace, by simp [Settled.after, Terminal.obey], by simp [Settled.after, Terminal.obey]⟩
  | glyph c =>
    refine ⟨?_, hink, hground⟩
    intro row column h
    obtain ⟨⟨oldRow, oldColumn⟩, hold, hnew⟩ := Option.map_eq_some_iff.mp h
    obtain ⟨hrow, hcolumn⟩ := hplace oldRow oldColumn hold
    simp only [Prod.mk.injEq] at hnew
    simp [Terminal.obey, write, hrow, hcolumn, hnew]

/-- Both terminals have the same in the cell. -/
def Alike (t other : Terminal) (row column : Nat) : Prop :=
  t.cells row column = other.cells row column

/-- A glyph whose place and colours are settled makes the cells it takes alike, and
leaves alike what was so before. -/
theorem alike_write {t other : Terminal} {w : Written} (ht : t.Follows w.settled)
    (hother : other.Follows w.settled) {place : Nat × Nat} (hplace : w.settled.place = some place)
    (hcoloured : w.settled.Coloured) {row column : Nat}
    (h : w.Covers row column ∨ t.Alike other row column) :
    (t.write w.glyph).Alike (other.write w.glyph) row column := by
  obtain ⟨hrow, hcolumn⟩ := ht.place _ _ hplace
  obtain ⟨hrow', hcolumn'⟩ := hother.place _ _ hplace
  obtain ⟨ink, hink⟩ := Option.isSome_iff_exists.mp hcoloured.1
  obtain ⟨ground, hground⟩ := Option.isSome_iff_exists.mp hcoloured.2
  unfold Alike write
  dsimp only
  rw [hrow, hcolumn, hrow', hcolumn', ht.ink ink hink, hother.ink ink hink,
    ht.ground ground hground, hother.ground ground hground]
  -- Marks go onto a cell in front of the cursor, so that one has to be alike before.
  by_cases htaken : row = place.1 ∧ place.2 ≤ column ∧ column < place.2 + Text.charWidth w.glyph
  · rw [if_pos htaken, if_pos htaken]
  · have halike : t.cells row column = other.cells row column := by
      rcases h with ⟨first, hfirst, hle, hlt⟩ | halike
      · rw [hplace] at hfirst
        obtain rfl := Option.some.inj hfirst
        exact absurd ⟨rfl, hle, hlt⟩ htaken
      · exact halike
    rw [if_neg htaken, if_neg htaken, halike]

/-- Terminals are alike in every cell that they were alike in before, and in every one
that a glyph takes. -/
theorem alike_obeyAll {signs : List Sign} {s : Settled} {t other : Terminal} (ht : t.Follows s)
    (hother : other.Follows s)
    (hsettled : ∀ w ∈ written s signs, w.settled.place.isSome ∧ w.settled.Coloured)
    {row column : Nat}
    (h : (∃ w ∈ written s signs, w.Covers row column) ∨ t.Alike other row column) :
    (t.obeyAll signs).Alike (other.obeyAll signs) row column := by
  induction signs generalizing s t other with
  | nil =>
    rcases h with ⟨w, hw, _⟩ | halike
    · exact absurd hw List.not_mem_nil
    · exact halike
  | cons sign rest ih =>
    cases sign with
    | glyph c =>
      rw [written, List.forall_mem_cons] at hsettled
      obtain ⟨⟨hplace, hcoloured⟩, hrest⟩ := hsettled
      obtain ⟨place, hplace⟩ := Option.isSome_iff_exists.mp hplace
      refine ih (ht.obey _) (hother.obey _) hrest ?_
      simp only [written, List.mem_cons, exists_eq_or_imp] at h
      have hwrite (h : Written.Covers ⟨c, s⟩ row column ∨ t.Alike other row column) :
          (t.write c).Alike (other.write c) row column :=
        alike_write (w := ⟨c, s⟩) ht hother hplace hcoloured h
      -- A cell that this glyph takes is alike from here on, also if a later one takes it.
      rcases h with (hcovers | hlater) | halike
      · exact Or.inr (hwrite (Or.inl hcovers))
      · exact Or.inl hlater
      · exact Or.inr (hwrite (Or.inr halike))
    | moveTo toRow toColumn => exact ih (ht.obey _) (hother.obey _) hsettled h
    | ink tint => exact ih (ht.obey _) (hother.obey _) hsettled h
    | ground tint => exact ih (ht.obey _) (hother.obey _) hsettled h
    | plain => exact ih (ht.obey _) (hother.obey _) hsettled h

end Terminal

end ProcessMonitor.Screen
