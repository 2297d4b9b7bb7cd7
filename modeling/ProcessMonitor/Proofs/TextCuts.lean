-- The laws of cut text. A cut keeps the longest beginning or the longest end that takes no
-- more columns than there are, so a wide glyph at the edge is dropped whole and marks
-- without a width stay. What is then filled or dotted takes its room exactly or less.
import ProcessMonitor.Proofs.Checked.Text

namespace ProcessMonitor.Text

/-! ## The longest that fits -/

/-- The characters have the property, and no longer ones have it. -/
def Longest (P : List Char → Prop) (kept : List Char) : Prop :=
  P kept ∧ ∀ other, P other → other.length ≤ kept.length

/-- A beginning of the text that fits. -/
def FitsFront (text : List Char) (room : Nat) (part : List Char) : Prop :=
  part <+: text ∧ width part ≤ room

/-- An end of the text that fits. -/
def FitsBack (text : List Char) (room : Nat) (part : List Char) : Prop :=
  part <:+ text ∧ width part ≤ room

@[simp] theorem width_reverse (text : List Char) : width text.reverse = width text := by
  induction text with
  | nil => rfl
  | cons c rest ih =>
    rw [List.reverse_cons, width_append, ih]
    simp only [width]
    omega

/-- The end that fits is the beginning that fits of the text backwards. -/
theorem fitsFront_reverse {text part : List Char} {room : Nat} :
    FitsFront text.reverse room part.reverse ↔ FitsBack text room part := by
  unfold FitsFront FitsBack
  rw [List.reverse_prefix, width_reverse]

theorem clipChars_fits (text : List Char) (room : Nat) :
    FitsFront text room (clipChars room text) :=
  ⟨clipChars_isPrefix room text, width_clipChars_le room text⟩

/-- Where the loop stops, the next character would not fit. -/
theorem length_le_clipChars {text part : List Char} {room : Nat} (h : FitsFront text room part) :
    part.length ≤ (clipChars room text).length := by
  induction text generalizing part room with
  | nil =>
    obtain ⟨hpart, _⟩ := h
    rw [List.prefix_nil.mp hpart]
    exact Nat.zero_le _
  | cons c rest ih =>
    obtain ⟨hpart, hwidth⟩ := h
    rcases List.prefix_cons_iff.mp hpart with rfl | ⟨front, rfl, hfront⟩
    · exact Nat.zero_le _
    · rw [width] at hwidth
      have hfits : charWidth c ≤ room := by omega
      have hrest : FitsFront rest (room - charWidth c) front := ⟨hfront, by omega⟩
      rw [clipChars, if_pos hfits]
      exact Nat.succ_le_succ (ih hrest)

theorem longest_clipChars (text : List Char) (room : Nat) :
    Longest (FitsFront text room) (clipChars room text) :=
  ⟨clipChars_fits text room, fun _ => length_le_clipChars⟩

theorem longest_clipTailChars (text : List Char) (room : Nat) :
    Longest (FitsBack text room) (clipTailChars room text) := by
  unfold clipTailChars
  constructor
  · rw [← fitsFront_reverse, List.reverse_reverse]
    exact clipChars_fits text.reverse room
  · intro other hother
    have hlength := length_le_clipChars (fitsFront_reverse.mpr hother)
    rwa [List.length_reverse] at hlength ⊢

/-- There is no other longest end. -/
theorem Longest.eq_of_fitsBack {text first second : List Char} {room : Nat}
    (hfirst : Longest (FitsBack text room) first) (hsecond : Longest (FitsBack text room) second) :
    first = second := by
  have hlength := Nat.le_antisymm (hsecond.2 first hfirst.1) (hfirst.2 second hsecond.1)
  exact (List.suffix_of_suffix_length_le hfirst.1.1 hsecond.1.1 (Nat.le_of_eq hlength)).eq_of_length
    hlength

/-! ## Text that is cut only when it has to be -/

theorem displayWidth_ellipsis : displayWidth ellipsis = 3 := by decide

theorem displayWidth_truncate_le (text : String) (room : Nat) :
    displayWidth (truncate text room) ≤ room := by
  unfold truncate
  split
  · assumption
  · split
    · have hclip := displayWidth_clip_le text (room - 3)
      rw [displayWidth_append, displayWidth_ellipsis]
      omega
    · exact displayWidth_clip_le text room

theorem truncate_eq_self_iff (text : String) (room : Nat) :
    truncate text room = text ↔ displayWidth text ≤ room := by
  constructor
  · intro h
    rw [← h]
    exact displayWidth_truncate_le text room
  · intro h
    exact if_pos h

/-! ## The laws -/

/-- For any text and any room. A cut keeps the longest beginning, or the longest end, that
fits; a filled text is the cut one with blanks behind, and takes all of the room; a text
that is too long is cut for three dots, or without dots where the room has no more than
their columns, and a text that fits is left alone. None of these cuts a text inside a
character. -/
theorem a_cut_keeps_all_that_fits (text : String) (room : Nat) :
    Longest (FitsFront text.toList room) (clip text room).toList ∧
      Longest (FitsBack text.toList room) (clipTail text room).toList ∧
      (∃ blanks ≤ room, fit text room = clip text room ++ spaces blanks) ∧
      displayWidth (fit text room) = room ∧
      displayWidth (truncate text room) ≤ room ∧
      (truncate text room = text ↔ displayWidth text ≤ room) ∧
      (room < displayWidth text → 3 < room →
        truncate text room = clip text (room - 3) ++ "...") ∧
      (room < displayWidth text → room ≤ 3 → truncate text room = clip text room) ∧
      Checked.clip text room = .ok (clip text room) ∧
      Checked.clipTail text room = .ok (clipTail text room) ∧
      Checked.fit text room = .ok (fit text room) ∧
      Checked.truncate text room = .ok (truncate text room) := by
  refine ⟨?_, ?_, ⟨_, Nat.sub_le _ _, rfl⟩, displayWidth_fit text room,
    displayWidth_truncate_le text room, truncate_eq_self_iff text room, ?_, ?_,
    Checked.clip_eq text room, Checked.clipTail_eq text room, Checked.fit_eq text room,
    Checked.truncate_eq text room⟩
  · rw [clip, String.toList_ofList]
    exact longest_clipChars text.toList room
  · rw [clipTail, String.toList_ofList]
    exact longest_clipTailChars text.toList room
  · intro hlong hroom
    rw [truncate, if_neg (Nat.not_le_of_lt hlong), if_pos hroom]
    rfl
  · intro hlong hroom
    rw [truncate, if_neg (Nat.not_le_of_lt hlong), if_neg (Nat.not_lt_of_le hroom)]

/-- One column is left of three behind a glyph of two. -/
example : fit "編集" 3 = "編 " := by decide +kernel

end ProcessMonitor.Text
