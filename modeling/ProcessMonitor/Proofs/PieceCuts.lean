-- The laws of text that is printed in coloured pieces. Each piece is cut for the room that
-- the ones before it leave, so until a piece is cut they print what one cut of the whole
-- text would keep. A cut can leave columns free that a later piece still fills, where the
-- whole text would have ended.
import ProcessMonitor.Proofs.TextCuts
import ProcessMonitor.Screen.Processes

namespace ProcessMonitor

namespace Text

/-! ## A cut of two texts in a row -/

theorem clipChars_append (room : Nat) (first second : List Char) :
    clipChars room (first ++ second) =
      if width first ≤ room then first ++ clipChars (room - width first) second
      else clipChars room first := by
  induction first generalizing room with
  | nil => simp [width]
  | cons c rest ih =>
    rw [List.cons_append, clipChars, clipChars, ih, width]
    by_cases hc : charWidth c ≤ room
    · rw [if_pos hc, if_pos hc]
      by_cases hrest : width rest ≤ room - charWidth c
      · rw [if_pos hrest, if_pos (by omega), Nat.sub_sub, List.cons_append]
      · rw [if_neg hrest, if_neg (by omega)]
    · rw [if_neg hc, if_neg hc, if_neg (by omega)]

section Clip

variable {first text : String} {room : Nat}

theorem clip_append_of_le (h : displayWidth first ≤ room) (second : String) :
    clip (first ++ second) room = first ++ clip second (room - displayWidth first) := by
  apply String.toList_injective
  simp only [clip, String.toList_append, String.toList_ofList]
  exact (clipChars_append room first.toList second.toList).trans (if_pos h)

theorem clip_append_of_lt (h : room < displayWidth first) (second : String) :
    clip (first ++ second) room = clip first room := by
  have hlong : ¬ width first.toList ≤ room := Nat.not_le_of_lt h
  simp only [clip, String.toList_append]
  rw [clipChars_append, if_neg hlong]

theorem clip_of_le (h : displayWidth text ≤ room) : clip text room = text := by
  simpa [clip, clipChars] using clip_append_of_le h ""

/-- A text that fits is only padded. -/
theorem fit_of_le (h : displayWidth text ≤ room) :
    fit text room = text ++ spaces (room - displayWidth text) := by rw [fit, clip_of_le h]

/-- Nothing is kept when the first character does not fit. -/
theorem clip_eq_empty_iff :
    clip text room = "" ↔ ∀ c ∈ text.toList.head?, room < charWidth c := by
  rw [clip, ← String.toList_inj, String.toList_ofList]
  cases text.toList with
  | nil => simp [clipChars]
  | cons c rest => simp [clipChars]

/-- A glyph that is dropped takes more columns than the cut leaves. -/
theorem spare_lt_of_dropped {c : Char} {rest : List Char}
    (h : text.toList = (clip text room).toList ++ c :: rest) :
    room - displayWidth (clip text room) < charWidth c := by
  have hwidth := displayWidth_clip_le text room
  have hlongest := (longest_clipChars text.toList room).2 ((clip text room).toList ++ [c])
  simp only [displayWidth, clip, String.toList_ofList] at h hwidth hlongest ⊢
  generalize clipChars room text.toList = kept at *
  refine Nat.lt_of_not_le fun hfits => ?_
  have hbegin : kept ++ [c] <+: text.toList := ⟨rest, by simp [h]⟩
  have hlength := hlongest ⟨hbegin, by simp only [width_append, width]; omega⟩
  rw [List.length_append, List.length_singleton] at hlength
  omega

end Clip

end Text

namespace Screen

open Text (displayWidth clip)

/-! ## What strokes print -/

/-- The text that a stroke prints, none for a move or a colour. -/
def Stroke.text : Stroke → String
  | .print text => text
  | _ => ""

/-- The text that strokes print. -/
def printed (strokes : List Stroke) : String := String.join (strokes.map Stroke.text)

@[simp] theorem printed_nil : printed [] = "" := rfl

@[simp] theorem printed_cons (stroke : Stroke) (rest : List Stroke) :
    printed (stroke :: rest) = stroke.text ++ printed rest := by simp [printed]

@[simp] theorem printed_append (first second : List Stroke) :
    printed (first ++ second) = printed first ++ printed second := by simp [printed]

/-- The text of pieces in a row. -/
def wholeText (pieces : List (Colour × String)) : String := String.join (pieces.map (·.2))

@[simp] theorem wholeText_cons (piece : Colour × String) (rest : List (Colour × String)) :
    wholeText (piece :: rest) = piece.2 ++ wholeText rest := by simp [wholeText]

theorem wholeText_concat (front : List (Colour × String)) (last : Colour × String) :
    wholeText (front ++ [last]) = wholeText front ++ last.2 := by simp [wholeText]

/-! ## Pieces -/

/-- The pieces behind the first one that does not fit. -/
def behindCut : Nat → List (Colour × String) → List (Colour × String)
  | _, [] => []
  | room, piece :: rest =>
    if displayWidth piece.2 ≤ room then behindCut (room - displayWidth piece.2) rest else rest

theorem printed_putPieces_cons (room : Nat) (piece : Colour × String)
    (rest : List (Colour × String)) :
    printed (putPieces room (piece :: rest)).1 =
      clip piece.2 room ++
        printed (putPieces (room - displayWidth (clip piece.2 room)) rest).1 := by
  simp [putPieces, Text.put, Stroke.text]

theorem displayWidth_printed_putPieces (room : Nat) (pieces : List (Colour × String)) :
    displayWidth (printed (putPieces room pieces).1) + (putPieces room pieces).2 = room := by
  induction pieces generalizing room with
  | nil => exact Nat.zero_add room
  | cons piece rest ih =>
    have hput := Text.displayWidth_put room piece.2
    have hrest := ih (Text.put room piece.2).2
    rw [printed_putPieces_cons, Text.displayWidth_append]
    simp only [putPieces, Text.put] at hput hrest ⊢
    omega

/-- Pieces print what one cut keeps of their text, and behind it what the pieces behind the
first one that is cut put into the columns that are left. -/
theorem printed_putPieces (room : Nat) (pieces : List (Colour × String)) :
    printed (putPieces room pieces).1 =
      clip (wholeText pieces) room ++
        printed (putPieces (room - displayWidth (clip (wholeText pieces) room))
          (behindCut room pieces)).1 := by
  induction pieces generalizing room with
  | nil => rfl
  | cons piece rest ih =>
    rw [printed_putPieces_cons, wholeText_cons, behindCut]
    by_cases hfits : displayWidth piece.2 ≤ room
    · rw [Text.clip_of_le hfits, Text.clip_append_of_le hfits, if_pos hfits, ih,
        Text.displayWidth_append, Nat.sub_sub, String.append_assoc]
    · rw [Text.clip_append_of_lt (Nat.lt_of_not_le hfits), if_neg hfits]

/-- Pieces print nothing when none of them begins with a character that fits. -/
theorem printed_putPieces_eq_empty_iff (room : Nat) (pieces : List (Colour × String)) :
    printed (putPieces room pieces).1 = "" ↔
      ∀ piece ∈ pieces, ∀ c ∈ piece.2.toList.head?, room < Text.charWidth c := by
  induction pieces with
  | nil => simp [putPieces]
  | cons piece rest ih =>
    rw [printed_putPieces_cons, List.forall_mem_cons, ← Text.clip_eq_empty_iff, ← ih]
    have hroom : displayWidth "" = 0 := rfl
    rw [String.append_eq_empty_iff]
    refine and_congr_right fun hfirst => ?_
    rw [hfirst, hroom, Nat.sub_zero]

/-- Only the last piece is cut when the others fit. -/
theorem behindCut_concat {room : Nat} {front : List (Colour × String)}
    (h : displayWidth (wholeText front) ≤ room) (last : Colour × String) :
    behindCut room (front ++ [last]) = [] := by
  induction front generalizing room with
  | nil => simp [behindCut]
  | cons piece rest ih =>
    rw [wholeText_cons, Text.displayWidth_append] at h
    rw [List.cons_append, behindCut, if_pos (by omega), ih (by omega)]

theorem printed_putPieces_concat {room : Nat} {front : List (Colour × String)}
    (h : displayWidth (wholeText front) ≤ room) (last : Colour × String) :
    printed (putPieces room (front ++ [last])).1 = clip (wholeText (front ++ [last])) room := by
  rw [printed_putPieces, behindCut_concat h]
  simp [putPieces]

/-- Pieces of which only the last one is cut, and spaces behind them, are their text cut once
and padded. -/
theorem printed_padded {room : Nat} {front : List (Colour × String)}
    (h : displayWidth (wholeText front) ≤ room) (last : Colour × String) :
    printed ((putPieces room (front ++ [last])).1 ++
        [.print (Text.spaces (putPieces room (front ++ [last])).2), .plain]) =
      Text.fit (wholeText (front ++ [last])) room := by
  have hleft := displayWidth_printed_putPieces room (front ++ [last])
  rw [printed_putPieces_concat h] at hleft
  rw [printed_append, printed_putPieces_concat h, Text.fit, ← Nat.eq_sub_of_add_eq' hleft]
  simp [Stroke.text]

/-! ## Rows of the list -/

/-- The text of a row in front of the command. -/
def rowFront (p : ProcessSample) : String :=
  rowStart p ++ percentColumn p.cpu ++ percentColumn p.memory

theorem wholeText_rowFront (ink : Colour) (p : ProcessSample) :
    wholeText [(ink, rowStart p), (usageColour p.cpu, percentColumn p.cpu),
      (usageColour p.memory, percentColumn p.memory)] = rowFront p := by
  simp [wholeText, rowFront, String.append_assoc]

/-- A row prints its text cut once and padded, when what stands in front of the command
fits. -/
theorem printed_processRow (y : Nat) {width : Nat} (selected : Bool) {p : ProcessSample}
    (h : displayWidth (rowFront p) ≤ width) :
    printed (processRow y width selected p) =
      Text.fit (rowFront p ++ Text.truncate p.command (width - fixedColumnsWidth)) width := by
  have hfront := wholeText_rowFront (rowColours selected).2 p
  have hpadded := printed_padded (hfront ▸ h)
    ((rowColours selected).2, Text.truncate p.command (width - fixedColumnsWidth))
  rw [wholeText_concat, hfront] at hpadded
  simpa [processRow, Stroke.text] using hpadded

/-- A last piece that fits behind the others is printed as it is. -/
theorem print_mem_putPieces {room : Nat} {front : List (Colour × String)} (last : Colour × String)
    (h : displayWidth (wholeText front) + displayWidth last.2 ≤ room) :
    .print last.2 ∈ (putPieces room (front ++ [last])).1 := by
  induction front generalizing room with
  | nil =>
    have hlast : clip last.2 room = last.2 := Text.clip_of_le (by omega)
    simp [putPieces, Text.put, hlast]
  | cons piece rest ih =>
    rw [wholeText_cons, Text.displayWidth_append] at h
    have hpiece : clip piece.2 room = piece.2 := Text.clip_of_le (by omega)
    have hrest : .print last.2 ∈ (putPieces (room - displayWidth piece.2) (rest ++ [last])).1 :=
      ih (by omega)
    simp only [List.cons_append, putPieces, Text.put, hpiece]
    exact List.mem_cons_of_mem _ (List.mem_cons_of_mem _ hrest)

/-! ## The laws -/

/-- Pieces of any number and any room. They print no more than the room holds and leave what
is over. What they print begins with what one cut of their whole text keeps. Behind it stand
the beginnings of pieces behind the first one that was cut, in columns that the cut left
free, which are fewer than the dropped glyph takes. So the two are the same exactly when no
such piece begins with a character that fits there, as when all pieces but the last one fit,
and a row of the list with room for what stands in front of the command is its text cut once
and padded. -/
theorem pieces_print_what_one_cut_keeps_first (room : Nat) (pieces : List (Colour × String)) :
    let shown := printed (putPieces room pieces).1
    let cut := clip (wholeText pieces) room
    let spare := room - displayWidth cut
    let behind := behindCut room pieces
    displayWidth shown ≤ room ∧
      (putPieces room pieces).2 = room - displayWidth shown ∧
      shown = cut ++ printed (putPieces spare behind).1 ∧
      (∀ c rest, (wholeText pieces).toList = cut.toList ++ c :: rest →
        spare < Text.charWidth c) ∧
      (shown = cut ↔ ∀ piece ∈ behind, ∀ c ∈ piece.2.toList.head?, spare < Text.charWidth c) ∧
      (∀ front last, pieces = front ++ [last] → displayWidth (wholeText front) ≤ room →
        shown = cut) ∧
      (∀ y selected p, displayWidth (rowFront p) ≤ room →
        printed (processRow y room selected p) =
          Text.fit (rowFront p ++ Text.truncate p.command (room - fixedColumnsWidth)) room) := by
  intro shown cut spare behind
  have hroom : displayWidth shown + (putPieces room pieces).2 = room :=
    displayWidth_printed_putPieces room pieces
  have hshown : shown = cut ++ printed (putPieces spare behind).1 := printed_putPieces room pieces
  refine ⟨by omega, by omega, hshown, fun c rest => Text.spare_lt_of_dropped, ?_, ?_,
    fun y selected p => printed_processRow y selected⟩
  · rw [← printed_putPieces_eq_empty_iff, hshown]
    exact String.append_eq_left_iff
  · rintro front last rfl hfront
    exact printed_putPieces_concat hfront last

/-- A glyph of two columns is dropped in front of the last column, and a letter of the next
piece is printed there, where the whole text would end in front of both. -/
theorem a_letter_follows_a_dropped_glyph :
    let pieces := [(Colour.white, "編"), (.green, "a")]
    printed (putPieces 1 pieces).1 = "a" ∧ clip (wholeText pieces) 1 = "" ∧
      printed (putPieces 1 pieces).1 ≠ clip (wholeText pieces) 1 := by
  decide +kernel

end Screen

end ProcessMonitor
