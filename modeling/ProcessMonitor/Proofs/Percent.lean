-- Percentages stay between 0 and 100. A whole number below 2^64 is finite, and a
-- quotient by a finite number other than zero is a number, so the clamp at the end
-- always has a number to work on.
import Mathlib.Algebra.Group.Nat.Defs
import ProcessMonitor.Host.Ticks

namespace ProcessMonitor

/-! ## Codes of whole numbers -/

theorem roundDiv_le (num den : Nat) : roundDiv num den ≤ num / den + 1 := by
  unfold roundDiv
  dsimp only
  split <;> omega

/-- A code is at most one doubling past the steps that its shift counts. -/
theorem nearestCode_le (bits num : Nat) :
    nearestCode bits num 1 ≤ (num.log2 - bits) * 2 ^ bits + 2 ^ (bits + 1) := by
  have hround := roundDiv_le num (2 ^ (num.log2 - bits))
  have hlt : num < 2 ^ (num.log2 + 1) := Nat.lt_log2_self
  have hquotient : num / 2 ^ (num.log2 - bits) < 2 ^ (bits + 1) := by
    rw [Nat.div_lt_iff_lt_mul (Nat.two_pow_pos _), ← Nat.pow_add]
    exact Nat.lt_of_lt_of_le hlt (Nat.pow_le_pow_right (by omega) (by omega))
  unfold nearestCode
  simp only [Nat.div_one, Nat.one_mul, Nat.pow_eq]
  omega

theorem le_nearestCode (bits num : Nat) :
    (num.log2 - bits) * 2 ^ bits ≤ nearestCode bits num 1 := by
  unfold nearestCode
  simp only [Nat.div_one, Nat.pow_eq]
  omega

theorem log2_mul_two_pow {n : Nat} (h : n ≠ 0) (k : Nat) : (n * 2 ^ k).log2 = n.log2 + k := by
  induction k with
  | zero => simp
  | succ k ih =>
    rw [Nat.pow_succ, ← Nat.mul_assoc, Nat.mul_comm _ 2,
      Nat.log2_two_mul (Nat.mul_ne_zero h (Nat.ne_of_gt (Nat.two_pow_pos k))), ih]
    rfl

namespace Double

theorem log2_unitsPerOne : unitsPerOne.log2 = 1074 := by decide +kernel

theorem unitsPerOne_eq : unitsPerOne = 2 ^ unitsPerOne.log2 := by decide +kernel

theorem log2_units {n : Nat} (h : n ≠ 0) : (n * unitsPerOne).log2 = n.log2 + 1074 := by
  rw [unitsPerOne_eq, log2_mul_two_pow h, log2_unitsPerOne]

theorem isNaN_ofCode (negative : Bool) (code : Nat) : (ofCode negative code).isNaN = false := by
  unfold ofCode isNaN
  split
  · exact decide_eq_false (by dsimp only; omega)
  · exact decide_eq_false (Nat.lt_irrefl _)

theorem isNaN_ofUnits (negative : Bool) (num den : Nat) :
    (ofUnits negative num den).isNaN = false := isNaN_ofCode _ _

theorem isNaN_ofNat (n : Nat) : (ofNat n).isNaN = false := isNaN_ofCode _ _

/-- The code of a whole number below 2^64. -/
theorem code_ofNat_bounds {n : Nat} (h : n < 2 ^ 64) :
    (ofNat n).code = nearestCode significandBits (n * unitsPerOne) 1 ∧
      (ofNat n).code < infinityCode := by
  have hlog : (n * unitsPerOne).log2 < 1138 := by
    by_cases hzero : n = 0
    · rw [hzero, Nat.zero_mul]
      decide
    · have := (Nat.log2_lt hzero).mpr h
      rw [log2_units hzero]
      omega
  have hlt : nearestCode significandBits (n * unitsPerOne) 1 < infinityCode := by
    have hle := nearestCode_le significandBits (n * unitsPerOne)
    generalize (n * unitsPerOne).log2 = doublings at hlog hle
    simp only [infinityCode, significandBits, Nat.pow_eq] at hle ⊢
    omega
  have hcode : (ofNat n).code = nearestCode significandBits (n * unitsPerOne) 1 := by
    simp [ofNat, ofRatio, ofUnits, ofCode, hlt]
  exact ⟨hcode, hcode ▸ hlt⟩

theorem isZero_ofNat {n : Nat} (hpos : 0 < n) (h : n < 2 ^ 64) : (ofNat n).isZero = false := by
  obtain ⟨hcode, _⟩ := code_ofNat_bounds h
  have hlog := log2_units (Nat.ne_of_gt hpos)
  have hle := le_nearestCode significandBits (n * unitsPerOne)
  rw [isZero, hcode, beq_eq_false_iff_ne]
  generalize (n * unitsPerOne).log2 = doublings at hlog hle
  simp only [significandBits] at hle ⊢
  omega

theorem isInfinite_ofNat {n : Nat} (h : n < 2 ^ 64) : (ofNat n).isInfinite = false := by
  have hlt := (code_ofNat_bounds h).2
  rw [isInfinite, beq_eq_false_iff_ne]
  omega

/-! ## Arithmetic that stays a number -/

theorem isNaN_infinity (negative : Bool) : (infinity negative).isNaN = false := by
  simp [infinity, isNaN]

/-- A product with a finite number other than zero is a number. -/
theorem isNaN_mul {x y : Double} (hx : x.isNaN = false) (hy : y.isNaN = false)
    (hfinite : x.isInfinite = false) (hzero : x.isZero = false) : (x * y).isNaN = false := by
  show (mul x y).isNaN = false
  unfold mul
  simp only [hx, hy, hfinite, hzero, Bool.or_self, Bool.false_or, Bool.false_eq_true, if_false]
  split
  · rename_i hinfinite
    have hnonzero : y.isZero = false := by
      rw [isInfinite, beq_iff_eq] at hinfinite
      rw [isZero, hinfinite]
      decide
    simp only [hnonzero, Bool.false_eq_true, if_false]
    exact isNaN_infinity _
  · exact isNaN_ofUnits _ _ _

/-- A quotient by a finite number other than zero is a number. -/
theorem isNaN_div {x y : Double} (hx : x.isNaN = false) (hy : y.isNaN = false)
    (hfinite : y.isInfinite = false) (hzero : y.isZero = false) : (x / y).isNaN = false := by
  show (div x y).isNaN = false
  unfold div
  simp only [hx, hy, hfinite, hzero, Bool.or_self, Bool.false_eq_true, if_false]
  split
  · exact isNaN_infinity _
  · exact isNaN_ofUnits _ _ _

/-! ## Between two bounds -/

/-- Not below `low` and not above `high`; a no-number is not. -/
def Within (low high x : Double) : Prop := low.le x = true ∧ x.le high = true

theorem le_of_lt_eq_false {x y : Double} (hx : x.isNaN = false) (hy : y.isNaN = false)
    (h : x.lt y = false) : y.le x = true := by
  simp only [lt, le, hx, hy, Bool.not_false, Bool.true_and, decide_eq_false_iff_not,
    decide_eq_true_eq] at h ⊢
  omega

theorem le_self {x : Double} (h : x.isNaN = false) : x.le x = true := by simp [le, h]

/-- A number that is clamped lies between the bounds. -/
theorem within_clamp {x low high : Double} (hx : x.isNaN = false) (hlow : low.isNaN = false)
    (hhigh : high.isNaN = false) (h : low.le high = true) : Within low high (x.clamp low high) := by
  unfold clamp
  split
  · exact ⟨le_self hlow, h⟩
  · rename_i hbelow
    split
    · exact ⟨h, le_self hhigh⟩
    · rename_i habove
      exact ⟨le_of_lt_eq_false hx hlow (by simpa using hbelow),
        le_of_lt_eq_false hhigh hx (by simpa using habove)⟩

/-- A percentage. -/
def IsPercent (x : Double) : Prop := Within zeroPercent hundred x

end Double

theorem isPercent_zeroPercent : zeroPercent.IsPercent :=
  ⟨Double.le_self (Double.isNaN_ofNat 0), by decide +kernel⟩

/-- Ticks that passed make a percentage, whatever part of them was work. -/
theorem isPercent_usagePercent (work : Nat) {total : Nat} (h : total < 2 ^ 64) :
    (usagePercent work total).IsPercent := by
  unfold usagePercent
  split
  · exact isPercent_zeroPercent
  · rename_i hpos
    have hpos : 0 < total := by
      rw [beq_iff_eq] at hpos
      omega
    have hproduct : (hundred * Double.ofNat work).isNaN = false :=
      Double.isNaN_mul (Double.isNaN_ofNat 100) (Double.isNaN_ofNat work)
        (Double.isInfinite_ofNat (n := 100) (by decide))
        (Double.isZero_ofNat (n := 100) (by decide) (by decide))
    have hquotient := Double.isNaN_div hproduct (Double.isNaN_ofNat total)
      (Double.isInfinite_ofNat h) (Double.isZero_ofNat hpos h)
    exact Double.within_clamp hquotient (Double.isNaN_ofNat 0) (Double.isNaN_ofNat 100)
      (by decide +kernel)

end ProcessMonitor
