-- The laws of marks that stand for a percentage: the bars of a gauge and the blocks of a small
-- graph. A number is brought between 0 and 100 before it is shared out in marks, and both steps
-- keep the order of numbers. So a larger percentage never has fewer marks.
import ProcessMonitor.Proofs.FrameParts
import ProcessMonitor.Proofs.RoundingOrder

namespace ProcessMonitor

namespace Double

/-! ## Places -/

theorem le_iff_place {x y : Double} (hx : x.isNaN = false) (hy : y.isNaN = false) :
    x.le y = true ↔ x.place ≤ y.place := by
  simp [le, hx, hy]

theorem code_eq_zero_of_place {x : Double} (h : x.place = 0) : x.code = 0 := by
  unfold place at h
  split at h <;> omega

theorem negative_of_place {x : Double} (h : 0 < x.place) : x.negative = false := by
  rw [Bool.eq_false_iff]
  intro hsign
  rw [place, if_pos hsign] at h
  omega

/-- Above zero, a place has one number. -/
theorem eq_of_place {x y : Double} (hpos : 0 < y.place) (h : x.place = y.place) : x = y := by
  have hx := negative_of_place (h ▸ hpos)
  have hy := negative_of_place hpos
  simp only [place, hx, hy, Bool.false_eq_true, if_false, Int.natCast_inj] at h
  cases x
  cases y
  simp_all

/-! ## Between two bounds -/

theorem clamp_of_isNaN {x : Double} (h : x.isNaN = true) (low high : Double) :
    x.clamp low high = x := by
  simp [clamp, lt, h]

theorem place_clamp {x low high : Double} (hx : x.isNaN = false) (hbounds : low.le high = true) :
    (x.clamp low high).place =
      Max.max low.place (Min.min x.place high.place) := by
  obtain ⟨hlow, hhigh⟩ := isNaN_eq_false_of_le hbounds
  rw [le_iff_place hlow hhigh] at hbounds
  simp only [clamp, lt, hx, hlow, hhigh, Bool.not_false, Bool.true_and, decide_eq_true_eq]
  split
  · omega
  · split <;> omega

/-- Numbers that are brought between two bounds keep their order. -/
theorem clamp_mono {x y low high : Double} (hbounds : low.le high = true) (h : x.le y = true) :
    (x.clamp low high).le (y.clamp low high) = true := by
  obtain ⟨hx, hy⟩ := isNaN_eq_false_of_le h
  obtain ⟨hlow, hhigh⟩ := isNaN_eq_false_of_le hbounds
  have hfirst := (isNaN_eq_false_of_le (within_clamp hx hlow hhigh hbounds).1).2
  have hsecond := (isNaN_eq_false_of_le (within_clamp hy hlow hhigh hbounds).1).2
  rw [le_iff_place hx hy] at h
  rw [le_iff_place hfirst hsecond, place_clamp hx hbounds, place_clamp hy hbounds]
  omega

theorem zeroPercent_le_hundred : zeroPercent.le hundred = true := by decide +kernel

theorem place_zeroPercent : zeroPercent.place = 0 := by decide +kernel

theorem zeroPercent_lt_hundred : zeroPercent.lt hundred = true := by decide +kernel

theorem place_hundred_pos : 0 < hundred.place := by decide +kernel

/-- Nothing, and less than nothing, is brought to a zero. -/
theorem code_clamp_eq_zero {x : Double} (h : x.le zeroPercent = true) :
    (x.clamp zeroPercent hundred).code = 0 := by
  obtain ⟨hx, hzero⟩ := isNaN_eq_false_of_le h
  have hpos := place_hundred_pos
  rw [le_iff_place hx hzero, place_zeroPercent] at h
  apply code_eq_zero_of_place
  rw [place_clamp hx zeroPercent_le_hundred, place_zeroPercent]
  omega

/-- All, and more than all, is brought to all. -/
theorem clamp_eq_hundred {x : Double} (h : hundred.le x = true) :
    x.clamp zeroPercent hundred = hundred := by
  obtain ⟨hhundred, hx⟩ := isNaN_eq_false_of_le h
  have hpos := place_hundred_pos
  rw [le_iff_place hhundred hx] at h
  apply eq_of_place hpos
  rw [place_clamp hx zeroPercent_le_hundred, place_zeroPercent]
  omega

end Double

namespace Screen

open Double

/-! ## Marks -/

/-- Marks out of `full` for percentages. There are none for nothing, for less and for a no-number,
all of them for 100 and more, and a number that is no smaller has no fewer. -/
structure Proportional (marks : Double → Nat) (full : Nat) : Prop where
  le_full : ∀ x, marks x ≤ full
  of_isNaN : ∀ x, x.isNaN = true → marks x = 0
  of_le_zero : ∀ x, x.le zeroPercent = true → marks x = 0
  of_hundred_le : ∀ x, hundred.le x = true → marks x = full
  mono : ∀ x y, x.le y = true → marks x ≤ marks y

/-- The cells of a gauge are the shares of 100. -/
theorem filledCells_eq_share (percent : Double) (cells : Nat) :
    filledCells percent cells = share hundred cells (percent.clamp zeroPercent hundred) := rfl

theorem proportional_filledCells {cells : Nat} (h : cells < 2 ^ 53) :
    Proportional (filledCells · cells) cells := by
  have hfinite : hundred.isFinite = true := by decide +kernel
  refine ⟨fun x => filledCells_le x h, ?_, ?_, ?_, ?_⟩
  · intro x hx
    show filledCells x cells = 0
    unfold filledCells
    rw [clamp_of_isNaN hx, div_of_isNaN hx, nan_mul, roundToNat_nan]
  · intro x hx
    show filledCells x cells = 0
    rw [filledCells_eq_share]
    exact share_of_code_eq_zero hfinite zeroPercent_lt_hundred h (code_clamp_eq_zero hx)
  · intro x hx
    show filledCells x cells = cells
    rw [filledCells_eq_share, clamp_eq_hundred hx]
    exact share_top hfinite zeroPercent_lt_hundred h
  · intro x y hle
    show filledCells x cells ≤ filledCells y cells
    obtain ⟨hx, hy⟩ := isNaN_eq_false_of_le hle
    have hzero := isNaN_ofNat 0
    have hhundred := isNaN_ofNat 100
    rw [filledCells_eq_share, filledCells_eq_share]
    apply share_mono hfinite zeroPercent_lt_hundred h
    · exact (within_clamp hx hzero hhundred zeroPercent_le_hundred).1
    · exact clamp_mono zeroPercent_le_hundred hle
    · exact (within_clamp hy hzero hhundred zeroPercent_le_hundred).2

theorem sparkLevel_eq (value : Double) : sparkLevel value = filledCells value 8 := rfl

/-! ## Texts of marks -/

/-- The cells of a gauge that is `width` characters wide, without its brackets. -/
def gaugeCells (width : Nat) : Nat := if width < 2 then width else width - 2

/-- What a gauge shows: its bars, blanks behind them, and brackets around both where there is room
for them. -/
def gaugeText (bars width : Nat) : List Char :=
  let cells := List.replicate bars '|' ++ List.replicate (gaugeCells width - bars) ' '
  if width < 2 then cells else '[' :: cells ++ [']']

theorem toList_gauge (percent : Double) (width : Nat) :
    (gauge percent width).toList = gaugeText (filledCells percent (gaugeCells width)) width := by
  unfold gauge gaugeText gaugeCells
  split <;> simp [Text.copies, Text.spaces]

theorem length_gaugeText {bars width : Nat} (h : bars ≤ gaugeCells width) :
    (gaugeText bars width).length = width := by
  unfold gaugeText gaugeCells at *
  by_cases hwidth : width < 2
  · simp [hwidth] at h ⊢
    omega
  · simp [hwidth] at h ⊢
    omega

theorem toList_sparkline (samples : List Double) (length : Nat) :
    (sparkline samples length).toList =
      List.replicate (length - min samples.length length) ' ' ++
        (samples.drop (samples.length - length)).map fun value => block (filledCells value 8) := by
  have hshown : (newest samples length).length = min samples.length length := by
    rw [newest, List.length_drop]
    omega
  unfold sparkline
  dsimp only
  rw [hshown]
  simp [Text.spaces, newest, sparkLevel_eq]

/-! ## The laws -/

/-- Of all percentages, also of those that are infinite, negative or no number: a gauge of any
width that a terminal can have is that wide, and shows bars in proportion to the percentage, then
blanks, with brackets around them where there is room. And of all samples, a small graph of any
length is that long, and shows blanks, then a block for each of the newest samples, whose height in
eighths of a cell is in proportion to the sample. -/
theorem marks_have_the_order_of_percentages :
    (∀ width < 65536, ∃ bars, Proportional bars (gaugeCells width) ∧
      ∀ percent, (gauge percent width).length = width ∧
        (gauge percent width).toList = gaugeText (bars percent) width) ∧
    ∃ eighths, Proportional eighths fullCell ∧
      ∀ samples length, (sparkline samples length).length = length ∧
        (sparkline samples length).toList =
          List.replicate (length - min samples.length length) ' ' ++
            (samples.drop (samples.length - length)).map fun value => block (eighths value) := by
  refine ⟨?_, (filledCells · 8), proportional_filledCells (by decide), ?_⟩
  · intro width hwidth
    have hcells : gaugeCells width < 2 ^ 53 := by
      unfold gaugeCells
      split <;> omega
    refine ⟨(filledCells · (gaugeCells width)), proportional_filledCells hcells, ?_⟩
    intro percent
    have htext := toList_gauge percent width
    refine ⟨?_, htext⟩
    rw [← String.length_toList, htext]
    exact length_gaugeText (filledCells_le percent hcells)
  · intro samples length
    have htext := toList_sparkline samples length
    refine ⟨?_, htext⟩
    rw [← String.length_toList, htext, List.length_append, List.length_replicate, List.length_map,
      List.length_drop]
    omega

/-- The widest gauge, full of an infinite percentage. -/
theorem an_infinite_percentage_fills_the_widest_gauge :
    65535 < 65536 ∧ hundred.le (infinity false) = true ∧
      (gauge (infinity false) 65535).toList = '[' :: List.replicate 65533 '|' ++ [']'] := by
  have hall : hundred.le (infinity false) = true := by decide +kernel
  obtain ⟨bars, hbars, htext⟩ := marks_have_the_order_of_percentages.1 65535 (by decide)
  refine ⟨by decide, hall, ?_⟩
  have hcells : gaugeCells 65535 = 65533 := rfl
  rw [(htext _).2, hbars.of_hundred_le _ hall, hcells, gaugeText, if_neg (by decide), hcells,
    Nat.sub_self, List.replicate_zero, List.append_nil]

end Screen

end ProcessMonitor
