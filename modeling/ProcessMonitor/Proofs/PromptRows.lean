-- The laws of the prompts. Each prompt cuts its text for a room of its own, and the box then cuts
-- its lines again. The second cut never takes anything away: the cursor stands behind the end of
-- what was typed, and a command that had to be cut shows its dots.
import ProcessMonitor.Proofs.BoxPictures
import ProcessMonitor.Proofs.PieceCuts

namespace ProcessMonitor.Screen

/-! ## Rows that stay -/

/-- The strokes draw the box, as wide as a prompt can be, with the text in a row of its inside: all
of the text, and blanks behind it, between the sides. Nothing is drawn in that row afterwards. A
terminal that can count the columns and the rows of the screen shows it there. -/
structure Box.KeepsRow (box : Box) (width height : Nat) (strokes : List Stroke) (row : Nat)
    (text : String) (blanks : Nat) (colour : Colour) : Prop where
  wide : box.width = min promptWidth width
  middle : box.InMiddle width height
  inside : row < box.innerHeight
  columns : Text.displayWidth text + blanks = box.innerWidth
  drawn : ∃ before line behind, strokes = before ++ line ++ behind ∧
    IsLine box.x (box.y + 1 + row) box.width line ∧
    printed line = "│" ++ (text ++ Text.spaces blanks) ++ "│" ∧
    ∀ column, .moveTo column (box.y + 1 + row) ∉ behind
  shown : width < 65536 → height < 65536 → ∀ t : Terminal,
    box.LineShown (t.obeyAll (signsOf strokes)) row (text ++ Text.spaces blanks) colour

/-- The strokes draw a prompt that has the whole text in a row of its inside. -/
def ShowsRow (width height : Nat) (strokes : List Stroke) (row : Nat) (text : String)
    (colour : Colour) : Prop :=
  ∃ (box : Box) (blanks : Nat), box.KeepsRow width height strokes row text blanks colour

theorem printed_line (box : Box) {row : Nat} (h : row < box.innerHeight) (text : String)
    (colour : Colour) :
    printed (box.line row text colour) = "│" ++ Text.fit text box.innerWidth ++ "│" := by
  rw [box.line_eq_inColours h]
  simp [Box.linePieces, Stroke.text, String.append_assoc]

theorem row_of_mem_line {box : Box} {row column place : Nat} {text : String} {colour : Colour}
    (h : .moveTo column place ∈ box.line row text colour) : place = box.y + 1 + row := by
  unfold Box.line at h
  split at h
  · exact absurd h List.not_mem_nil
  · simp only [List.mem_cons, Stroke.moveTo.injEq, reduceCtorEq, or_false,
      List.not_mem_nil] at h
    exact h.2

section ShowsRow

variable {width height : Nat} (hwidth : 4 ≤ width)

include hwidth

/-- A line of a box that has a row for it. -/
theorem showsRow_modal (ground : Colour) (title : String) (front back : List (String × Colour))
    {text : String} (colour : Colour) (hheight : front.length + 3 ≤ height)
    (htext : Text.displayWidth text ≤ min promptWidth width - 2) :
    ShowsRow width height
      (modal width height promptWidth ground title (front ++ (text, colour) :: back)) front.length
      text colour := by
  have hlength : (front ++ (text, colour) :: back).length = front.length + (back.length + 1) := by
    rw [List.length_append, List.length_cons]
  have hprompt : 4 ≤ min promptWidth width := Nat.le_min.mpr ⟨by decide, hwidth⟩
  obtain ⟨box, hbox⟩ : ∃ box, Box.centered? width height promptWidth
      ((front ++ (text, colour) :: back).length + 2) ground = some box :=
    Option.ne_none_iff_exists'.mp fun hnone => by
      have hsmall := Box.centered?_eq_none_iff.mp hnone
      omega
  obtain ⟨hmiddle, hcolumns, hrows, _⟩ := Box.inMiddle_of_centered hbox
  have hinner : box.innerWidth = min promptWidth width - 2 := by rw [Box.innerWidth, hcolumns]
  have hrow : front.length < box.innerHeight := by
    unfold Box.innerHeight
    omega
  have hfit : Text.fit text box.innerWidth =
      text ++ Text.spaces (box.innerWidth - Text.displayWidth text) :=
    Text.fit_of_le (hinner ▸ htext)
  refine ⟨box, box.innerWidth - Text.displayWidth text, hcolumns, hmiddle, hrow, by omega, ?_,
    fun hw hh t => ?_⟩
  · have hstrokes : modal width height promptWidth ground title (front ++ (text, colour) :: back) =
        (box.frame title ++ front.zipIdx.flatMap fun line => box.line line.2 line.1.1 line.1.2) ++
          box.line front.length text colour ++
            (back.zipIdx (front.length + 1)).flatMap fun line =>
              box.line line.2 line.1.1 line.1.2 := by
      rw [modal, hbox]
      dsimp only
      rw [List.zipIdx_append, List.zipIdx_cons, List.flatMap_append, List.flatMap_cons,
        Nat.zero_add, List.append_assoc, List.append_assoc]
    refine ⟨_, _, _, hstrokes, Box.isLine_line box (by omega) text colour hrow,
      hfit ▸ printed_line box hrow text colour, fun column hmove => ?_⟩
    obtain ⟨line, hline, hmem⟩ := List.mem_flatMap.mp hmove
    have hplace := row_of_mem_line hmem
    have hbehind := List.le_snd_of_mem_zipIdx hline
    omega
  · have hshown := (Box.shown_modal hbox (Nat.le_of_lt hw) (Nat.le_of_lt hh) title t).line
      front.length hrow
    have hline : (front ++ (text, colour) :: back).getD front.length ("", .white) =
        (text, colour) := by simp
    rwa [hline, hfit] at hshown

end ShowsRow

/-! ## Room for a number -/

theorem displayWidth_repr_pid {pid : Int} (hpid : 1 ≤ pid) (hlast : pid ≤ 2147483647) :
    Text.displayWidth (toString pid) ≤ 10 := by
  obtain ⟨n, rfl⟩ := Int.eq_ofNat_of_zero_le (Int.le_trans (by decide) hpid)
  have hdigits : n.repr.length ≤ 10 := (Nat.length_repr_le_iff (by decide)).mpr (by omega)
  have hcolumns := (Text.printable_repr_nat n).displayWidth_eq
  change Text.displayWidth n.repr ≤ 10
  omega

/-! ## The laws -/

/-- On a screen that can hold a box at all, the line of a filter shows the cursor behind the longest
end of what was typed that has room. With a row more, the question before a process is ended shows
the whole command where it fits, and its beginning and all three dots where it does not and there is
room for more than the dots. From 34 columns on it shows every digit of every process id. -/
theorem prompts_show_what_they_are_for {width height : Nat} (hwidth : 4 ≤ width)
    (hheight : 3 ≤ height) :
    (∀ buffer, ∃ tail,
      Text.Longest (Text.FitsBack buffer.toList (min 56 width - 5)) tail.toList ∧
      ShowsRow width height (filterLine width height buffer) 0 (" " ++ tail ++ "█") .white) ∧
    (4 ≤ height → ∀ pid command, ∃ shown,
      (Text.displayWidth command ≤ min 56 width - 4 → shown = command) ∧
      (min 56 width - 4 < Text.displayWidth command → 3 < min 56 width - 4 →
        shown = Text.clip command (min 56 width - 4 - 3) ++ "...") ∧
      (min 56 width - 4 < Text.displayWidth command → min 56 width - 4 ≤ 3 →
        shown = Text.clip command (min 56 width - 4)) ∧
      ShowsRow width height (killQuestion width height pid command) 1 (" " ++ shown) .grey) ∧
    (34 ≤ width → ∀ pid command, 1 ≤ pid → pid ≤ 2147483647 →
      ShowsRow width height (killQuestion width height pid command) 0
        (" Send SIGTERM to PID " ++ toString pid ++ "?") .white) := by
  have hprompt : promptWidth = 56 := rfl
  have hblank : Text.displayWidth " " = 1 := by decide
  refine ⟨fun buffer => ?_, fun hrows pid command => ?_, fun hcolumns pid command hpid hlast => ?_⟩
  · have htail : Text.Longest (Text.FitsBack buffer.toList (min 56 width - 5))
        (Text.clipTail buffer (min 56 width - 5)).toList := by
      rw [Text.clipTail, String.toList_ofList]
      exact Text.longest_clipTailChars _ _
    have hroom : Text.displayWidth (Text.clipTail buffer (min 56 width - 5)) ≤ min 56 width - 5 :=
      htail.1.2
    have hcursor : Text.displayWidth "█" = 1 := by decide +kernel
    refine ⟨_, htail, ?_⟩
    apply showsRow_modal hwidth .darkBlue _ [] _ .white hheight
    rw [Text.displayWidth_append, Text.displayWidth_append, hblank, hcursor, hprompt]
    omega
  · have hroom : min promptWidth width - 2 - 2 = min 56 width - 4 := Nat.sub_sub ..
    have hshown := Text.displayWidth_truncate_le command (min 56 width - 4)
    refine ⟨Text.truncate command (min 56 width - 4), ?_, ?_, ?_, ?_⟩
    · intro hfits
      exact if_pos hfits
    · intro hlong hdots
      exact (if_neg (Nat.not_le_of_lt hlong)).trans (if_pos hdots)
    · intro hlong hshort
      exact (if_neg (Nat.not_le_of_lt hlong)).trans (if_neg (Nat.not_lt_of_le hshort))
    · rw [← hroom] at hshown ⊢
      apply showsRow_modal hwidth .darkRed _ [_] _ .grey hrows
      rw [Text.displayWidth_append, hblank]
      omega
  · have hquestion : Text.displayWidth " Send SIGTERM to PID " = 21 := by decide
    have hmark : Text.displayWidth "?" = 1 := by decide
    have hdigits := displayWidth_repr_pid hpid hlast
    apply showsRow_modal hwidth .darkRed _ [] _ .white hheight
    rw [Text.displayWidth_append, Text.displayWidth_append, hquestion, hmark, hprompt]
    omega

/-- The narrowest screen for every process id. One more glyph of two columns would fit into neither
of the texts that are cut. -/
theorem a_narrow_screen_shows_the_largest_process_id :
    let typed := "一二三四五六七八九十百千万億兆"
    let command := "一二三四五六七八九十百千万億兆京"
    (4 ≤ 34 ∧ 3 ≤ 4) ∧
      ShowsRow 34 4 (filterLine 34 4 typed) 0 " 二三四五六七八九十百千万億兆█" .white ∧
      ShowsRow 34 4 (killQuestion 34 4 2147483647 command) 1
        " 一二三四五六七八九十百千万..." .grey ∧
      ShowsRow 34 4 (killQuestion 34 4 2147483647 command) 0
        " Send SIGTERM to PID 2147483647?" .white := by
  intro typed command
  obtain ⟨hfilter, hcommand, hpid⟩ :=
    prompts_show_what_they_are_for (by decide : 4 ≤ 34) (by decide : 3 ≤ 4)
  obtain ⟨tail, htail, htyped⟩ := hfilter typed
  obtain ⟨shown, _, hdots, _, hshown⟩ := hcommand (by decide) 2147483647 command
  have hend : Text.clipTailChars 29 typed.toList = "二三四五六七八九十百千万億兆".toList := by
    decide +kernel
  have hbegin : Text.clip command 27 = "一二三四五六七八九十百千万" := by decide +kernel
  obtain rfl : tail = "二三四五六七八九十百千万億兆" :=
    String.toList_injective ((htail.eq_of_fitsBack (Text.longest_clipTailChars _ _)).trans hend)
  obtain rfl : shown = "一二三四五六七八九十百千万..." :=
    (hdots (by decide +kernel) (by decide)).trans (congrArg (· ++ "...") hbegin)
  exact ⟨by decide, htyped, hshown, hpid (by decide) _ _ (by decide) (by decide)⟩

end ProcessMonitor.Screen
