-- Text in columns with every cut checked. The loops count columns and remember the byte
-- where a character begins, and the text is cut at that byte.
import ProcessMonitor.Proofs.Checked.Basic
import ProcessMonitor.Proofs.TextColumns
import ProcessMonitor.Screen.Stroke

namespace ProcessMonitor.Checked

open Text (charWidth width clipChars)

/-! ## Cutting -/

/-- Goes through characters until one does not fit, and cuts the text before it. -/
def splitLoop (text : List Char) (room : Nat) : Nat → List (Nat × Char) → Checked (List Char × Nat)
  | used, [] => pure (text, used)
  | used, (byte, c) :: rest =>
    if used + charWidth c > room then do
      let (front, _) ← cutAt byte text
      pure (front, used)
    else splitLoop text room (used + charWidth c) rest

/-- The longest beginning that fits, with the columns that it takes. -/
def split (text : String) (room : Nat) : Checked (String × Nat) := do
  let (front, used) ← splitLoop text.toList room 0 (placed 0 text.toList)
  pure (String.ofList front, used)

def clip (text : String) (room : Nat) : Checked String := do
  let (front, _) ← split text room
  pure front

/-- Goes backwards through characters until one does not fit. The byte where the last one
that fits begins. -/
def tailLoop (room : Nat) : Nat → Nat → List (Nat × Char) → Nat
  | _, start, [] => start
  | used, start, (byte, c) :: rest =>
    if used + charWidth c > room then start else tailLoop room (used + charWidth c) byte rest

def clipTail (text : String) (room : Nat) : Checked String := do
  let start := tailLoop room 0 (bytes text.toList) (placed 0 text.toList).reverse
  let (_, back) ← cutAt start text.toList
  pure (String.ofList back)

def truncate (text : String) (room : Nat) : Checked String :=
  if Text.displayWidth text ≤ room then pure text
  else if room > 3 then do
    let room ← minus room 3
    let front ← clip text room
    pure (front ++ Text.ellipsis)
  else clip text room

/-! ## Filling -/

def fit (text : String) (room : Nat) : Checked String := do
  let (front, used) ← split text room
  let blank ← minus room used
  pure (front ++ Text.spaces blank)

def put (room : Nat) (text : String) : Checked (String × Nat) := do
  let (front, used) ← split text room
  let left ← minus room used
  pure (front, left)

def putPieces : Nat → List (Screen.Colour × String) → Checked (List Screen.Stroke × Nat)
  | room, [] => pure ([], room)
  | room, (colour, text) :: rest => do
    let (kept, left) ← put room text
    let (strokes, final) ← putPieces left rest
    pure (.foreground colour :: .print kept :: strokes, final)

/-! ## No cut goes astray -/

theorem splitLoop_eq (room : Nat) (past rest : List Char) (h : width past ≤ room) :
    splitLoop (past ++ rest) room (width past) (placed (bytes past) rest) =
      pure (past ++ clipChars (room - width past) rest,
        width (past ++ clipChars (room - width past) rest)) := by
  induction rest generalizing past with
  | nil => simp [placed, splitLoop, clipChars]
  | cons c rest ih =>
    rw [placed, splitLoop, clipChars]
    by_cases hfits : charWidth c ≤ room - width past
    · have hwidth : width (past ++ [c]) = width past + charWidth c := by
        simp [Text.width_append, width]
      have hbytes : bytes (past ++ [c]) = bytes past + c.utf8Size := by
        simp [bytes_append, bytes]
      have hnext := ih (past ++ [c]) (by omega)
      rw [hwidth, hbytes, List.append_assoc, List.append_assoc, Nat.sub_add_eq] at hnext
      rw [if_neg (by omega), if_pos hfits]
      exact hnext
    · rw [if_pos (by omega), if_neg hfits, cutAt_bytes, pure_bind, List.append_nil]

/-- A split never goes astray, and gives the clipped text with its width. -/
@[simp] theorem split_eq (text : String) (room : Nat) :
    split text room = pure (Text.clip text room, Text.displayWidth (Text.clip text room)) := by
  have hloop : splitLoop text.toList room 0 (placed 0 text.toList) =
      pure (clipChars room text.toList, width (clipChars room text.toList)) :=
    splitLoop_eq room [] text.toList (Nat.zero_le room)
  rw [split, hloop, pure_bind, Text.displayWidth, Text.clip, String.toList_ofList]

@[simp] theorem clip_eq (text : String) (room : Nat) : clip text room = pure (Text.clip text room) := by
  simp only [clip, split_eq, pure_bind]

/-- The loop from the end stops before the characters that fit. -/
theorem tailLoop_eq (room used : Nat) (reversed : List Char) (h : used ≤ room) :
    tailLoop room used (bytes reversed.reverse) (placed 0 reversed.reverse).reverse =
      bytes (reversed.drop (clipChars (room - used) reversed).length).reverse := by
  induction reversed generalizing used with
  | nil => rfl
  | cons c rest ih =>
    have hplaced : (placed 0 (c :: rest).reverse).reverse =
        (bytes rest.reverse, c) :: (placed 0 rest.reverse).reverse := by
      simp [placed_append, placed]
    rw [hplaced, tailLoop, clipChars]
    by_cases hfits : charWidth c ≤ room - used
    · rw [if_neg (by omega), if_pos hfits, ih (used + charWidth c) (by omega), Nat.sub_add_eq]
      rfl
    · rw [if_pos (by omega), if_neg hfits]
      rfl

@[simp] theorem clipTail_eq (text : String) (room : Nat) :
    clipTail text room = pure (Text.clipTail text room) := by
  have hfront := List.prefix_iff_eq_append.mp (Text.clipChars_isPrefix room text.toList.reverse)
  have hsplit := congrArg List.reverse hfront
  rw [List.reverse_append, List.reverse_reverse] at hsplit
  have hstart := tailLoop_eq room 0 text.toList.reverse (Nat.zero_le room)
  rw [List.reverse_reverse, Nat.sub_zero] at hstart
  have hcut := cutAt_bytes
    (text.toList.reverse.drop (clipChars room text.toList.reverse).length).reverse
    (clipChars room text.toList.reverse).reverse
  rw [hsplit] at hcut
  rw [clipTail, hstart, hcut, pure_bind]
  rfl

@[simp] theorem truncate_eq (text : String) (room : Nat) :
    truncate text room = pure (Text.truncate text room) := by
  unfold truncate Text.truncate
  split
  · rfl
  · split
    · rename_i hroom
      rw [minus_of_le (by omega), pure_bind, clip_eq, pure_bind]
    · exact clip_eq text room

@[simp] theorem fit_eq (text : String) (room : Nat) : fit text room = pure (Text.fit text room) := by
  have hblank := minus_of_le (Text.displayWidth_clip_le text room)
  simp only [fit, split_eq, pure_bind, hblank]
  rfl

@[simp] theorem put_eq (room : Nat) (text : String) : put room text = pure (Text.put room text) := by
  have hleft := minus_of_le (Text.displayWidth_clip_le text room)
  simp only [put, split_eq, pure_bind, hleft]
  rfl

@[simp] theorem putPieces_eq (room : Nat) (pieces : List (Screen.Colour × String)) :
    putPieces room pieces = pure (Screen.putPieces room pieces) := by
  induction pieces generalizing room with
  | nil => rfl
  | cons piece rest ih => simp only [putPieces, put_eq, pure_bind, ih, Screen.putPieces]

end ProcessMonitor.Checked
