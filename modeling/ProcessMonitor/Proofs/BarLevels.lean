-- The laws of the heights of bars. No sample of a window is above its peak, so no bar is
-- higher than its graph, whatever numbers the samples are.
import ProcessMonitor.Proofs.FilledCells

namespace ProcessMonitor

namespace Double

/-! ## The larger of two -/

theorem le_of_lt {x y : Double} (h : x.lt y = true) : x.le y = true := by
  simp only [lt, le, Bool.and_eq_true, decide_eq_true_eq] at h ⊢
  exact ⟨h.1, Int.le_of_lt h.2⟩

theorem isNaN_eq_false_of_le {x y : Double} (h : x.le y = true) :
    x.isNaN = false ∧ y.isNaN = false := by
  simp only [le, Bool.and_eq_true, Bool.not_eq_true'] at h
  exact h.1

theorem le_trans {x y z : Double} (h : x.le y = true) (hnext : y.le z = true) :
    x.le z = true := by
  simp only [le, Bool.and_eq_true, Bool.not_eq_true', decide_eq_true_eq] at h hnext ⊢
  exact ⟨⟨h.1.1, hnext.1.2⟩, Int.le_trans h.2 hnext.2⟩

/-- A number is not above what it is brought together with. -/
theorem le_max_left {x : Double} (hx : x.isNaN = false) (y : Double) : x.le (x.max y) = true := by
  unfold max
  rw [hx, if_neg Bool.false_ne_true]
  split
  · exact le_self hx
  · split
    · rename_i hlt
      exact le_of_lt hlt
    · exact le_self hx

theorem le_max_right (x : Double) {y : Double} (hy : y.isNaN = false) :
    y.le (x.max y) = true := by
  unfold max
  rw [hy, if_neg Bool.false_ne_true]
  split
  · exact le_self hy
  · rename_i hx
    split
    · exact le_self hy
    · rename_i hlt
      exact le_of_lt_eq_false (by simpa using hx) hy (by simpa using hlt)

/-- What is brought together from numbers below a bound stays below it, and so does a
no-number. -/
theorem max_le {x y z : Double} (hx : x.isNaN = true ∨ x.le z = true) (hy : y.le z = true) :
    (x.max y).le z = true := by
  obtain ⟨hnumber, _⟩ := isNaN_eq_false_of_le hy
  unfold max
  rw [hnumber, if_neg Bool.false_ne_true]
  rcases hx with hnone | hle
  · rwa [if_pos hnone]
  · rw [(isNaN_eq_false_of_le hle).1, if_neg Bool.false_ne_true]
    split
    · exact hy
    · exact hle

/-! ## Shares of anything -/

/-- Above zero, so not zero. -/
theorem isZero_of_lt {x : Double} (h : zeroPercent.lt x = true) : x.isZero = false := by
  have hplace : zeroPercent.place = 0 := by decide +kernel
  simp only [lt, Bool.and_eq_true, decide_eq_true_eq, hplace] at h
  rw [isZero, beq_eq_false_iff_ne]
  intro hcode
  simp [place, hcode] at h

theorem div_of_isInfinite {x y : Double} (hx : x.isNaN = false) (hy : y.isNaN = false)
    (h : y.isInfinite = true) :
    x / y = if x.isInfinite then nan false else zero (x.negative != y.negative) := by
  show div x y = _
  simp [div, hx, hy, h]

/-- A number between zero and a top above zero makes a share of a whole number that rounds to no
more than that. An infinite top leaves nothing, or no number. -/
theorem roundToNat_share_le {x top : Double} (hzero : zeroPercent.le x = true)
    (hle : x.le top = true) (hpos : zeroPercent.lt top = true) {n : Nat} (hn : n < 2 ^ 53) :
    (x / top * ofNat n).roundToNat ≤ n := by
  obtain ⟨hx, htop⟩ := isNaN_eq_false_of_le hle
  by_cases hfinite : top.isInfinite = true
  · rw [div_of_isInfinite hx htop hfinite]
    split
    · rw [nan_mul, roundToNat_nan]
      exact Nat.zero_le n
    · have hunits (negative : Bool) : (zero negative).units = 0 := by simp [units, zero, codeUnits]
      exact roundToNat_mul_ofNat_le hn rfl rfl (hunits _ ▸ Nat.zero_le _)
  · obtain ⟨hnumber, hfinite, hunits⟩ := share_of_code_le hx htop (by simpa using hfinite)
      (isZero_of_lt hpos) (code_le_of_le hzero hle)
    exact roundToNat_mul_ofNat_le hn hnumber hfinite hunits

end Double

namespace Screen

open Double

/-! ## The peak -/

theorem le_foldl_max {start : Double} (h : start.isNaN = false) (samples : List Double) :
    start.le (samples.foldl Double.max start) = true ∧
      ∀ value ∈ samples, value.isNaN = true ∨
        value.le (samples.foldl Double.max start) = true := by
  induction samples generalizing start with
  | nil => exact ⟨le_self h, fun value hvalue => absurd hvalue List.not_mem_nil⟩
  | cons first rest ih =>
    have hstart := le_max_left h first
    obtain ⟨hle, hrest⟩ := ih (isNaN_eq_false_of_le hstart).2
    refine ⟨le_trans hstart hle, fun value hvalue => ?_⟩
    rcases List.mem_cons.mp hvalue with rfl | hmem
    · by_cases hnumber : value.isNaN = true
      · exact Or.inl hnumber
      · exact Or.inr (le_trans (le_max_right start (by simpa using hnumber)) hle)
    · exact hrest value hmem

theorem le_peak {samples : List Double} {value : Double} (h : value ∈ samples) :
    value.isNaN = true ∨ value.le (peak samples) = true :=
  (le_foldl_max (isNaN_ofNat 0) samples).2 value h

/-! ## The heights -/

/-- A sample that is no number or not above the top is no higher than a graph of `full`
eighths. -/
theorem level_le_of_le {top value : Double} (hvalue : value.isNaN = true ∨ value.le top = true)
    {full : Nat} (hfull : full < 2 ^ 53) : level top (ofNat full) value ≤ full := by
  unfold level
  split
  · rename_i hpos
    exact roundToNat_share_le (le_max_right value (isNaN_ofNat 0)) (max_le hvalue (le_of_lt hpos))
      hpos hfull
  · exact Nat.zero_le full

end Screen

end ProcessMonitor
