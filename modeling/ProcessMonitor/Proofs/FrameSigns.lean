-- What a terminal reads in the characters of a frame. Cursor moves, colours and
-- glyphs are told apart by the characters alone, and strokes whose text has no control
-- characters are read as what they are.
import ProcessMonitor.Proofs.TextColumns
import ProcessMonitor.Screen.Stroke

namespace ProcessMonitor.Screen

/-- A colour as the terminal knows it: a place in its palette, or its own. -/
abbrev Tint := Option Nat

/-- One thing that a terminal reads. Rows and columns count from 0. -/
inductive Sign where
  | moveTo (row column : Nat)
  | ink (tint : Tint)
  | ground (tint : Tint)
  /-- Both colours become the terminal's own. -/
  | plain
  | glyph (c : Char)
deriving DecidableEq, Repr

/-! ## Reading -/

/-- Where in the characters a terminal stands. -/
inductive Standing where
  /-- In no sequence. -/
  | text
  /-- Right behind the escape. -/
  | escape
  /-- In a sequence, with the numbers before the last semicolon, and the one behind it
  so far. -/
  | control (before : List Nat) (now : Nat)

/-- What a sequence means, by its numbers and its last letter. -/
def obey? : List Nat → Char → Option Sign
  | [row + 1, column + 1], 'H' => some (.moveTo row column)
  | [38, 5, place], 'm' => some (.ink (some place))
  | [39], 'm' => some (.ink none)
  | [48, 5, place], 'm' => some (.ground (some place))
  | [49], 'm' => some (.ground none)
  | [0], 'm' => some .plain
  | _, _ => none

/-- Reads characters to their end. There is no reading of a control character, of any
other sequence, or of one that is cut off. -/
def readFrom : Standing → List Char → Option (List Sign)
  | .text, [] => some []
  | .escape, [] => none
  | .control _ _, [] => none
  | .text, c :: rest =>
    if c = '\x1b' then readFrom .escape rest
    else if Text.IsControl c then none
    else (readFrom .text rest).map (.glyph c :: ·)
  | .escape, c :: rest => if c = '[' then readFrom (.control [] 0) rest else none
  | .control before now, c :: rest =>
    if c.isDigit then readFrom (.control before (10 * now + (c.toNat - '0'.toNat))) rest
    else if c = ';' then readFrom (.control (before ++ [now]) 0) rest
    else (obey? (before ++ [now]) c).bind fun sign => (readFrom .text rest).map (sign :: ·)

/-- Reads the characters of a frame. -/
def read? (text : String) : Option (List Sign) := readFrom .text text.toList

theorem readFrom_digits (before : List Nat) (now : Nat) {digits : List Char}
    (h : ∀ c ∈ digits, c.isDigit = true) (rest : List Char) :
    readFrom (.control before now) (digits ++ rest) =
      readFrom (.control before (Nat.ofDigitChars 10 digits now)) rest := by
  induction digits generalizing now with
  | nil => rfl
  | cons c digits ih =>
    -- The number so far is part of the standing, so the induction is for any of them.
    have hdigit := h c List.mem_cons_self
    rw [List.cons_append, readFrom, if_pos hdigit, Nat.ofDigitChars_cons,
      ih _ fun other hother => h other (List.mem_cons_of_mem c hother)]

theorem readFrom_number (before : List Nat) (n : Nat) (rest : List Char) :
    readFrom (.control before 0) ((toString n).toList ++ rest) =
      readFrom (.control before n) rest := by
  have hdigits : (toString n).toList = Nat.toDigits 10 n := by simp
  rw [hdigits, readFrom_digits before 0, Nat.ofDigitChars_ten_toDigits]
  intro c hc
  exact Nat.isDigit_of_mem_toDigits (by decide) (by decide) hc

theorem readFrom_start (rest : List Char) :
    readFrom .text (Stroke.sequenceStart.toList ++ rest) = readFrom (.control [] 0) rest := rfl

theorem readFrom_semicolon (before : List Nat) (now : Nat) (rest : List Char) :
    readFrom (.control before now) (";".toList ++ rest) =
      readFrom (.control (before ++ [now]) 0) rest := rfl

theorem readFrom_ink (rest : List Char) :
    readFrom (.control [] 0) ("38;5;".toList ++ rest) = readFrom (.control [38, 5] 0) rest := rfl

theorem readFrom_ground (rest : List Char) :
    readFrom (.control [] 0) ("48;5;".toList ++ rest) = readFrom (.control [48, 5] 0) rest := rfl

/-- Text without control characters is read as its glyphs. -/
theorem readFrom_glyphs {text : List Char} (h : ∀ c ∈ text, ¬ Text.IsControl c)
    (rest : List Char) :
    readFrom .text (text ++ rest) = (readFrom .text rest).map (text.map Sign.glyph ++ ·) := by
  induction text with
  | nil => simp
  | cons c text ih =>
    have hc := h c List.mem_cons_self
    have hescape : c ≠ '\x1b' := by
      rintro rfl
      exact hc (by decide)
    rw [List.cons_append, readFrom, if_neg hescape, if_neg hc,
      ih fun other hother => h other (List.mem_cons_of_mem c hother), Option.map_map]
    rfl

/-! ## Strokes -/

namespace Stroke

/-- What a terminal reads in one stroke. -/
def signs : Stroke → List Sign
  | .moveTo column row => [.moveTo (row % 65536) (column % 65536)]
  | .foreground colour => [.ink colour.palette?]
  | .background colour => [.ground colour.palette?]
  | .plain => [.plain]
  | .print text => text.toList.map Sign.glyph

/-- The stroke writes no control character. -/
def Clean : Stroke → Prop
  | .print text => Text.Clean text
  | _ => True

theorem readFrom_encode {stroke : Stroke} (h : stroke.Clean) (rest : List Char) :
    readFrom .text (stroke.encode.toList ++ rest) =
      (readFrom .text rest).map (stroke.signs ++ ·) := by
  cases stroke with
  | print text => exact readFrom_glyphs h rest
  | moveTo column row =>
    simp only [encode, coordinate, String.toList_append, List.append_assoc]
    rw [readFrom_start, readFrom_number, readFrom_semicolon, readFrom_number]
    rfl
  | foreground colour =>
    cases hpalette : colour.palette? with
    | none =>
      simp only [encode, signs, hpalette, String.toList_append, List.append_assoc]
      rw [readFrom_start]
      rfl
    | some place =>
      simp only [encode, signs, hpalette, String.toList_append, List.append_assoc]
      rw [readFrom_start, readFrom_ink, readFrom_number]
      rfl
  | background colour =>
    cases hpalette : colour.palette? with
    | none =>
      simp only [encode, signs, hpalette, String.toList_append, List.append_assoc]
      rw [readFrom_start]
      rfl
    | some place =>
      simp only [encode, signs, hpalette, String.toList_append, List.append_assoc]
      rw [readFrom_start, readFrom_ground, readFrom_number]
      rfl
  | plain =>
    simp only [encode, String.toList_append, List.append_assoc]
    rw [readFrom_start]
    rfl

end Stroke

/-- What a terminal reads in strokes. -/
def signsOf (strokes : List Stroke) : List Sign := strokes.flatMap Stroke.signs

/-- The characters of strokes are read as the strokes. -/
theorem read?_encodeAll {strokes : List Stroke} (h : ∀ stroke ∈ strokes, stroke.Clean) :
    read? (Stroke.encodeAll strokes) = some (signsOf strokes) := by
  rw [read?, Stroke.encodeAll, String.toList_join, List.flatMap_map]
  induction strokes with
  | nil => rfl
  | cons stroke rest ih =>
    rw [List.flatMap_cons, Stroke.readFrom_encode (h stroke List.mem_cons_self),
      ih fun other hother => h other (List.mem_cons_of_mem stroke hother)]
    rfl

end ProcessMonitor.Screen
